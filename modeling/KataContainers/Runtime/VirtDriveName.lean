import KataContainers.Lib.Shortlex

/-!
# Virtio-blk drive names

Model of `GetVirtDriveName` of the Go runtime (`src/runtime/virtcontainers/utils/utils.go`) and of
`get_virt_drive_name` of runtime-rs (`src/runtime-rs/crates/hypervisor/src/device/util.rs`), which
name the `index`-th virtio-blk disk as Linux's `virtio_blk` does: `vda`, ..., `vdz`, `vdaa`, ....
Both run one loop (`letters_loop`) over a buffer of `suffLen` letters: while the buffer has room
and `index >= 0`, write the letter `'a' + index % 26` and go on with `index / 26 - 1`; an index
still non-negative at the end means that the name did not fit. Go's `int` is 64 bits wide here
(`Int64`); the Rust index is an `i32`.

The loop is bijective numeration in base 26 (`Shortlex.bij_loop`): from the rank of a word in the
shortlex order of the words over `'a'..'z'` it writes that word backwards (`letters_loop_rank`),
so the name of `index` is `vd` followed by the word of rank `index`
(`GetVirtDriveName_eq_ok_iff`, `get_virt_drive_name_eq_ok_iff`). No index of either width has a
word of more than 14 letters, so the buffer is never short. The indices below
`(26 ^ (k + 1) - 26) / 25` name the words of at most `k` letters only while that bound is itself
within the index type.
-/

namespace KataContainers.Runtime.VirtDriveName

open Shortlex

/-- `DISK_NAME_LEN` of Linux. -/
def diskNameLen : Nat := 32

/-- The room for letters after the prefix `"vd"`. -/
def suffLen : Nat := diskNameLen - "vd".length

/-- The byte of the letter `'a' + d`. -/
def letter_byte (d : Fin 26) : UInt8 := UInt8.ofNat (97 + d)

/-- Go's `string(b)` of a byte slice, and the `str` of ASCII bytes in Rust: one character a byte.
Only letters are ever read here. -/
def asciiString (bs : List UInt8) : String := String.ofList (bs.map fun b => Char.ofNat b.toNat)

/-- The drive name with the letters of `w`. -/
def vd_name (w : List (Fin 26)) : String := "vd" ++ asciiString (w.map letter_byte)

/-- The loop of both functions, with fuel `suffLen - i`: while `index >= 0`, write `letter index`
and go on with `next index`. Returns the letters written and the index left. -/
def letters_loop {α : Type} [LE α] [OfNat α 0] [DecidableLE α] (letter : α → UInt8)
    (next : α → α) : Nat → α → List UInt8 → List UInt8 × α
  | 0, index, diskLetters => (diskLetters, index)
  | fuel + 1, index, diskLetters =>
    if 0 ≤ index then letters_loop letter next fuel (next index) (diskLetters ++ [letter index])
    else (diskLetters, index)

/-- Go's `reverseString`: the runes of `s` in reverse order. -/
def reverseString (s : String) : String := String.ofList s.toList.reverse

/-- `GetVirtDriveName(index int)`. -/
def GetVirtDriveName (index : Int64) : Except String String :=
  if index < 0 then .error "Index cannot be negative for drive"
  else
    -- `byte('a' + (index % base))`, then `index = index/base - 1`
    let (diskLetters, index) :=
      letters_loop (fun index : Int64 => UInt8.ofInt (97 + index % 26).toInt)
        (fun index => index / 26 - 1) suffLen index []
    if index ≥ 0 then .error "Index not supported"
    else .ok ("vd" ++ reverseString (asciiString diskLetters))

/-- `std::str::from_utf8`, on the bytes it is given here: ASCII bytes decode one to one; the model
rejects every other byte. -/
def from_utf8 (v : List UInt8) : Except String String :=
  if v.all (· < 0x80) then .ok (asciiString v) else .error "invalid utf-8 sequence"

/-- `get_virt_drive_name(mut index: i32)`. -/
def get_virt_drive_name (index : Int32) : Except String String :=
  if index < 0 then .error "Index cannot be negative"
  else
    -- `b'a' + (index % base) as u8`, then `index = (index / base) - 1`
    let (disk_letters, index) :=
      letters_loop (fun index : Int32 => 97 + UInt8.ofInt (index % 26).toInt)
        (fun index => index / 26 - 1) suffLen index []
    if index ≥ 0 then .error "Index not supported"
    else do
      let s ← from_utf8 disk_letters.reverse
      .ok ("vd" ++ s)

/-! ## The letters -/

theorem toNat_letter_char : ∀ d : Fin 26, (Char.ofNat (letter_byte d).toNat).toNat = 97 + d.val := by
  decide

theorem letter_byte_lt : ∀ d : Fin 26, letter_byte d < 0x80 := by decide

theorem vd_name_inj {w w' : List (Fin 26)} (h : vd_name w = vd_name w') : w = w' := by
  have hchar : Function.Injective fun d : Fin 26 => Char.ofNat (letter_byte d).toNat := by
    intro a b hab
    have := congrArg Char.toNat hab
    simp only [toNat_letter_char] at this
    exact Fin.ext (by omega)
  have h' := congrArg String.toList h
  simp only [vd_name, asciiString, String.toList_append, String.toList_ofList, List.map_map] at h'
  exact List.map_injective_iff.mpr hchar (List.append_cancel_left h')

theorem reverseString_asciiString (bs : List UInt8) :
    reverseString (asciiString bs) = asciiString bs.reverse := by
  simp [reverseString, asciiString, String.toList_ofList, List.map_reverse]

theorem from_utf8_letters (w : List (Fin 26)) :
    from_utf8 (w.map letter_byte) = .ok (asciiString (w.map letter_byte)) := by
  rw [from_utf8, if_pos]
  simpa using fun d _ => letter_byte_lt d

/-! ## The loop runs bijective numeration -/

section Loop

variable {α : Type} [LE α] [OfNat α 0] [DecidableLE α] (toInt : α → Int) {letter : α → UInt8}
  {next : α → α}

/-- Where the sign test, the step and the letter of the loop are those of the value of the index,
the loop is `bij_loop` in base 26 on that value, up to writing each digit as its letter. -/
theorem letters_loop_simulates (hle : ∀ x : α, 0 ≤ x ↔ 0 ≤ toInt x)
    (hnext : ∀ x, 0 ≤ toInt x → toInt (next x) = toInt x / 26 - 1)
    (hletter : ∀ x, 0 ≤ toInt x → letter x = letter_byte (Fin.ofNat 26 (toInt x % 26).toNat))
    (fuel : Nat) (index : α) (ds : List (Fin 26)) :
    (letters_loop letter next fuel index (ds.map letter_byte)).1 =
        (bij_loop 26 fuel (toInt index) ds).1.map letter_byte ∧
      toInt (letters_loop letter next fuel index (ds.map letter_byte)).2 =
        (bij_loop 26 fuel (toInt index) ds).2 := by
  induction fuel generalizing index ds with
  | zero => exact ⟨rfl, rfl⟩
  | succ fuel ih =>
    by_cases h : 0 ≤ toInt index
    · -- one letter written on both sides: the digit of `bij_loop` is the loop's letter
      have step := ih (next index) (ds ++ [Fin.ofNat 26 (toInt index % 26).toNat])
      rw [hnext index h, List.map_append, List.map_singleton, ← hletter index h] at step
      rw [letters_loop, bij_loop, if_pos ((hle index).2 h), if_pos h]
      exact step
    · rw [letters_loop, bij_loop, if_neg (fun h' => h ((hle index).1 h')), if_neg h]
      exact ⟨rfl, rfl⟩

/-- From the rank of a nonempty word, with room for its letters, the loop writes the word's letters
backwards and leaves `-1`. -/
theorem letters_loop_rank (hle : ∀ x : α, 0 ≤ x ↔ 0 ≤ toInt x)
    (hnext : ∀ x, 0 ≤ toInt x → toInt (next x) = toInt x / 26 - 1)
    (hletter : ∀ x, 0 ≤ toInt x → letter x = letter_byte (Fin.ofNat 26 (toInt x % 26).toNat))
    {w : List (Fin 26)} {fuel : Nat} (hw : w ≠ []) (hf : w.length ≤ fuel) {index : α}
    (hi : toInt index = rank w) :
    (letters_loop letter next fuel index []).1 = w.reverse.map letter_byte ∧
      toInt (letters_loop letter next fuel index []).2 = -1 := by
  have h := letters_loop_simulates toInt hle hnext hletter fuel index []
  rw [hi, bij_loop_rank hw hf] at h
  simpa using h

end Loop

/-! ## The arithmetic of each width -/

theorem int64_nonneg_iff (x : Int64) : 0 ≤ x ↔ 0 ≤ x.toInt := by
  rw [Int64.le_iff_toInt_le, Int64.toInt_zero]

/-- `index/base - 1` does not wrap on a non-negative index. -/
theorem int64_toInt_next (x : Int64) (h : 0 ≤ x.toInt) : (x / 26 - 1).toInt = x.toInt / 26 - 1 := by
  have hlt := Int64.toInt_lt x
  have h26 : (26 : Int64).toInt = 26 := by decide
  have h1 : (1 : Int64).toInt = 1 := by decide
  have hdiv : (x / 26).toInt = x.toInt / 26 := by
    rw [Int64.toInt_div, h26, Int.tdiv_eq_ediv_of_nonneg h]
    exact Int.bmod_eq_of_le (by omega) (by omega)
  rw [Int64.toInt_sub, hdiv, h1]
  exact Int.bmod_eq_of_le (by omega) (by omega)

/-- `byte('a' + (index % base))` is the letter of the last digit. -/
theorem int64_letter (x : Int64) (h : 0 ≤ x.toInt) :
    UInt8.ofInt (97 + x % 26).toInt = letter_byte (Fin.ofNat 26 (x.toInt % 26).toNat) := by
  have h26 : (26 : Int64).toInt = 26 := by decide
  have h97 : (97 : Int64).toInt = 97 := by decide
  have hmod : (x % 26).toInt = x.toInt % 26 := by
    rw [Int64.toInt_mod, h26, Int.tmod_eq_emod_of_nonneg h]
  rw [Int64.toInt_add, h97, hmod, Int.bmod_eq_of_le (by omega) (by omega), UInt8.ofInt,
    letter_byte, Fin.val_ofNat]
  congr 1
  omega

theorem int32_nonneg_iff (x : Int32) : 0 ≤ x ↔ 0 ≤ x.toInt := by
  rw [Int32.le_iff_toInt_le, Int32.toInt_zero]

theorem int32_toInt_next (x : Int32) (h : 0 ≤ x.toInt) : (x / 26 - 1).toInt = x.toInt / 26 - 1 := by
  have hlt := Int32.toInt_lt x
  have h26 : (26 : Int32).toInt = 26 := by decide
  have h1 : (1 : Int32).toInt = 1 := by decide
  have hdiv : (x / 26).toInt = x.toInt / 26 := by
    rw [Int32.toInt_div, h26, Int.tdiv_eq_ediv_of_nonneg h]
    exact Int.bmod_eq_of_le (by omega) (by omega)
  rw [Int32.toInt_sub, hdiv, h1]
  exact Int.bmod_eq_of_le (by omega) (by omega)

/-- `b'a' + (index % base) as u8` is the letter of the last digit. -/
theorem int32_letter (x : Int32) (h : 0 ≤ x.toInt) :
    97 + UInt8.ofInt (x % 26).toInt = letter_byte (Fin.ofNat 26 (x.toInt % 26).toNat) := by
  have h26 : (26 : Int32).toInt = 26 := by decide
  have hmod : (x % 26).toInt = x.toInt % 26 := by
    rw [Int32.toInt_mod, h26, Int.tmod_eq_emod_of_nonneg h]
  rw [hmod, UInt8.ofInt, letter_byte, Fin.val_ofNat]
  have h97 : (97 : UInt8).toNat = 97 := rfl
  apply UInt8.toNat_inj.mp
  simp only [UInt8.toNat_add, UInt8.toNat_ofNat', h97]
  omega

/-! ## The names -/

/-- A non-negative index is the rank of a nonempty word. -/
theorem exists_rank_of_nonneg {i : Int} (h : 0 ≤ i) : ∃ w : List (Fin 26), w ≠ [] ∧ i = rank w := by
  obtain ⟨w, hw, hr⟩ := exists_rank_eq (k := 26) i.toNat
  exact ⟨w, hw, by rw [hr, Int.toNat_of_nonneg h]⟩

/-- Every word that an index below `2 ^ 63` ranks fits in the buffer: it has at most 14 letters. -/
theorem length_le_suffLen {w : List (Fin 26)} (hw : w ≠ []) (h : rank w < 2 ^ 63) :
    w.length ≤ suffLen := by
  have h15 : 2 ^ 63 ≤ first 26 (14 + 1) := by decide
  have := (rank_lt_first_iff hw 14).1 (by omega)
  exact Nat.le_trans this (by decide)

theorem GetVirtDriveName_of_rank {index : Int64} {w : List (Fin 26)} (hw : w ≠ [])
    (hi : index.toInt = rank w) : GetVirtDriveName index = .ok (vd_name w) := by
  have hlt := Int64.toInt_lt index
  have hlen := length_le_suffLen hw (by omega)
  obtain ⟨h1, h2⟩ :=
    letters_loop_rank Int64.toInt int64_nonneg_iff int64_toInt_next int64_letter hw hlen hi
  have hloop : letters_loop (fun index : Int64 => UInt8.ofInt (97 + index % 26).toInt)
      (fun index => index / 26 - 1) suffLen index [] = (w.reverse.map letter_byte, -1) :=
    Prod.ext h1 (Int64.toInt_inj.mp (h2.trans (by decide : (-1 : Int) = (-1 : Int64).toInt)))
  have hnn : ¬ index < 0 := by
    rw [Int64.lt_iff_toInt_lt, Int64.toInt_zero]
    omega
  rw [GetVirtDriveName, if_neg hnn, hloop]
  dsimp only
  rw [if_neg (by decide), reverseString_asciiString, vd_name, ← List.map_reverse,
    List.reverse_reverse]

/-- Go's name of a non-negative index is `vd` and the word of that rank in shortlex order. -/
theorem GetVirtDriveName_eq_ok_iff (index : Int64) (s : String) :
    GetVirtDriveName index = .ok s ↔ ∃ w, w ≠ [] ∧ index.toInt = rank w ∧ s = vd_name w := by
  constructor
  · intro h
    have hnn : 0 ≤ index.toInt := by
      by_contra hneg
      rw [GetVirtDriveName, if_pos (by rw [Int64.lt_iff_toInt_lt, Int64.toInt_zero]; omega)] at h
      cases h
    obtain ⟨w, hw, hi⟩ := exists_rank_of_nonneg hnn
    rw [GetVirtDriveName_of_rank hw hi] at h
    injection h with h
    exact ⟨w, hw, hi, h.symm⟩
  · rintro ⟨w, hw, hi, rfl⟩
    exact GetVirtDriveName_of_rank hw hi

theorem get_virt_drive_name_of_rank {index : Int32} {w : List (Fin 26)} (hw : w ≠ [])
    (hi : index.toInt = rank w) : get_virt_drive_name index = .ok (vd_name w) := by
  have hlt := Int32.toInt_lt index
  have hlen := length_le_suffLen hw (by omega)
  obtain ⟨h1, h2⟩ :=
    letters_loop_rank Int32.toInt int32_nonneg_iff int32_toInt_next int32_letter hw hlen hi
  have hloop : letters_loop (fun index : Int32 => 97 + UInt8.ofInt (index % 26).toInt)
      (fun index => index / 26 - 1) suffLen index [] = (w.reverse.map letter_byte, -1) :=
    Prod.ext h1 (Int32.toInt_inj.mp (h2.trans (by decide : (-1 : Int) = (-1 : Int32).toInt)))
  have hnn : ¬ index < 0 := by
    rw [Int32.lt_iff_toInt_lt, Int32.toInt_zero]
    omega
  rw [get_virt_drive_name, if_neg hnn, hloop]
  dsimp only
  rw [if_neg (by decide), ← List.map_reverse, List.reverse_reverse, from_utf8_letters]
  rfl

/-- The Rust name of a non-negative index is `vd` and the word of that rank in shortlex order. -/
theorem get_virt_drive_name_eq_ok_iff (index : Int32) (s : String) :
    get_virt_drive_name index = .ok s ↔ ∃ w, w ≠ [] ∧ index.toInt = rank w ∧ s = vd_name w := by
  constructor
  · intro h
    have hnn : 0 ≤ index.toInt := by
      by_contra hneg
      rw [get_virt_drive_name,
        if_pos (by rw [Int32.lt_iff_toInt_lt, Int32.toInt_zero]; omega)] at h
      cases h
    obtain ⟨w, hw, hi⟩ := exists_rank_of_nonneg hnn
    rw [get_virt_drive_name_of_rank hw hi] at h
    injection h with h
    exact ⟨w, hw, hi, h.symm⟩
  · rintro ⟨w, hw, hi, rfl⟩
    exact get_virt_drive_name_of_rank hw hi

-- the cases of the source's `test_get_virt_drive_name`
example : get_virt_drive_name 0 = .ok "vda" ∧ get_virt_drive_name 25 = .ok "vdz" ∧
    get_virt_drive_name 27 = .ok "vdab" ∧ get_virt_drive_name 704 = .ok "vdaac" ∧
    get_virt_drive_name 18277 = .ok "vdzzz" := by decide

/-! ## Both functions, over all indices -/

theorem bound_eq_first (k : Nat) : ((26 : Int) ^ (k + 1) - 26) / 25 = first 26 (k + 1) := by
  have h : ((25 * first 26 (k + 1) + 26 : Nat) : Int) = (((26 ^ (k + 1) : Nat)) : Int) :=
    congrArg _ (first_mul_add 25 k)
  push_cast at h
  omega

theorem GetVirtDriveName_inj {a b : Int64} (ha : 0 ≤ a) (hb : 0 ≤ b)
    (h : GetVirtDriveName a = GetVirtDriveName b) : a = b := by
  obtain ⟨w, hw, hai⟩ := exists_rank_of_nonneg ((int64_nonneg_iff a).1 ha)
  obtain ⟨w', hw', hbi⟩ := exists_rank_of_nonneg ((int64_nonneg_iff b).1 hb)
  rw [GetVirtDriveName_of_rank hw hai, GetVirtDriveName_of_rank hw' hbi] at h
  injection h with h
  rw [← Int64.toInt_inj, hai, hbi, vd_name_inj h]

theorem get_virt_drive_name_inj {a b : Int32} (ha : 0 ≤ a) (hb : 0 ≤ b)
    (h : get_virt_drive_name a = get_virt_drive_name b) : a = b := by
  obtain ⟨w, hw, hai⟩ := exists_rank_of_nonneg ((int32_nonneg_iff a).1 ha)
  obtain ⟨w', hw', hbi⟩ := exists_rank_of_nonneg ((int32_nonneg_iff b).1 hb)
  rw [get_virt_drive_name_of_rank hw hai, get_virt_drive_name_of_rank hw' hbi] at h
  injection h with h
  rw [← Int32.toInt_inj, hai, hbi, vd_name_inj h]

/-- The Rust function names an `i32` index as the Go function names it. -/
theorem get_virt_drive_name_eq_GetVirtDriveName {index : Int32} (h : 0 ≤ index) :
    get_virt_drive_name index = GetVirtDriveName index.toInt64 := by
  obtain ⟨w, hw, hi⟩ := exists_rank_of_nonneg ((int32_nonneg_iff index).1 h)
  rw [get_virt_drive_name_of_rank hw hi,
    GetVirtDriveName_of_rank hw (by rw [Int32.toInt_toInt64, hi])]

/-- The names of the indices below `bound`: those of the words whose rank is below it. Where
`bound` is at most one past the largest index, every such word has an index. -/
theorem GetVirtDriveName_image {bound : Int} (hb : bound ≤ 2 ^ 63) (s : String) :
    (∃ index : Int64, 0 ≤ index ∧ index.toInt < bound ∧ GetVirtDriveName index = .ok s) ↔
      ∃ w, w ≠ [] ∧ (rank w : Int) < bound ∧ s = vd_name w := by
  constructor
  · rintro ⟨index, -, hlt, hok⟩
    obtain ⟨w, hw, hi, rfl⟩ := (GetVirtDriveName_eq_ok_iff index s).1 hok
    exact ⟨w, hw, hi ▸ hlt, rfl⟩
  · rintro ⟨w, hw, hlt, rfl⟩
    have hi : (Int64.ofNat (rank w)).toInt = rank w := Int64.toInt_ofNat_of_lt (by omega)
    refine ⟨Int64.ofNat (rank w), ?_, by rw [hi]; exact hlt, GetVirtDriveName_of_rank hw hi⟩
    rw [int64_nonneg_iff, hi]
    omega

theorem get_virt_drive_name_image {bound : Int} (hb : bound ≤ 2 ^ 31) (s : String) :
    (∃ index : Int32, 0 ≤ index ∧ index.toInt < bound ∧ get_virt_drive_name index = .ok s) ↔
      ∃ w, w ≠ [] ∧ (rank w : Int) < bound ∧ s = vd_name w := by
  constructor
  · rintro ⟨index, -, hlt, hok⟩
    obtain ⟨w, hw, hi, rfl⟩ := (get_virt_drive_name_eq_ok_iff index s).1 hok
    exact ⟨w, hw, hi ▸ hlt, rfl⟩
  · rintro ⟨w, hw, hlt, rfl⟩
    have hi : (Int32.ofNat (rank w)).toInt = rank w := Int32.toInt_ofNat_of_lt (by omega)
    refine ⟨Int32.ofNat (rank w), ?_, by rw [hi]; exact hlt, get_virt_drive_name_of_rank hw hi⟩
    rw [int32_nonneg_iff, hi]
    omega

/-- The rank of a nonempty word is below `(26 ^ (k + 1) - 26) / 25` when it has at most `k`
letters. -/
theorem rank_lt_bound_iff {w : List (Fin 26)} (hw : w ≠ []) (k : Nat) :
    (rank w : Int) < ((26 : Int) ^ (k + 1) - 26) / 25 ↔ w.length ≤ k := by
  rw [bound_eq_first, Int.ofNat_lt]
  exact rank_lt_first_iff hw k

/-- The names of the words ranked below `(26 ^ (k + 1) - 26) / 25` are those of at most `k`
letters. -/
theorem names_below_bound_iff (k : Nat) (s : String) :
    (∃ w, w ≠ [] ∧ (rank w : Int) < ((26 : Int) ^ (k + 1) - 26) / 25 ∧ s = vd_name w) ↔
      ∃ w : List (Fin 26), w ≠ [] ∧ w.length ≤ k ∧ s = vd_name w := by
  constructor
  · rintro ⟨w, hw, hlt, rfl⟩
    exact ⟨w, hw, (rank_lt_bound_iff hw k).1 hlt, rfl⟩
  · rintro ⟨w, hw, hlen, rfl⟩
    exact ⟨w, hw, (rank_lt_bound_iff hw k).2 hlen, rfl⟩

theorem virt_drive_name_shortlex :
    (∀ index : Int64, 0 ≤ index → ∃ w, GetVirtDriveName index = .ok (vd_name w) ∧
      ∀ L, w.length ≤ L → (words_upto 26 L)[index.toInt.toNat]? = some w) ∧
    (∀ index : Int32, 0 ≤ index → get_virt_drive_name index = GetVirtDriveName index.toInt64) ∧
    (∀ a b : Int64, 0 ≤ a → 0 ≤ b → GetVirtDriveName a = GetVirtDriveName b → a = b) ∧
    (∀ a b : Int32, 0 ≤ a → 0 ≤ b → get_virt_drive_name a = get_virt_drive_name b → a = b) ∧
    (∀ k : Nat, ((26 : Int) ^ (k + 1) - 26) / 25 ≤ 2 ^ 63 → ∀ s,
      (∃ index : Int64, 0 ≤ index ∧ index.toInt < ((26 : Int) ^ (k + 1) - 26) / 25 ∧
        GetVirtDriveName index = .ok s) ↔
      ∃ w : List (Fin 26), w ≠ [] ∧ w.length ≤ k ∧ s = vd_name w) ∧
    (∀ k : Nat, ((26 : Int) ^ (k + 1) - 26) / 25 ≤ 2 ^ 31 → ∀ s,
      (∃ index : Int32, 0 ≤ index ∧ index.toInt < ((26 : Int) ^ (k + 1) - 26) / 25 ∧
        get_virt_drive_name index = .ok s) ↔
      ∃ w : List (Fin 26), w ≠ [] ∧ w.length ≤ k ∧ s = vd_name w) ∧
    (∀ index : Int64, 0 ≤ index → GetVirtDriveName index ≠ .error "Index not supported") ∧
    (∀ index : Int32, 0 ≤ index → get_virt_drive_name index ≠ .error "Index not supported") := by
  refine ⟨?go, fun _ h => get_virt_drive_name_eq_GetVirtDriveName h,
    fun _ _ => GetVirtDriveName_inj, fun _ _ => get_virt_drive_name_inj, ?goImage, ?rsImage,
    ?goSupported, ?rsSupported⟩
  case go =>
    intro index h
    obtain ⟨w, hw, hi⟩ := exists_rank_of_nonneg ((int64_nonneg_iff index).1 h)
    refine ⟨w, GetVirtDriveName_of_rank hw hi, fun L hL => ?_⟩
    rw [hi, Int.toNat_natCast]
    exact getElem?_words_upto_rank hw hL
  case goImage =>
    intro k hk s
    rw [GetVirtDriveName_image hk s, names_below_bound_iff]
  case rsImage =>
    intro k hk s
    rw [get_virt_drive_name_image hk s, names_below_bound_iff]
  case goSupported =>
    intro index h
    obtain ⟨w, hw, hi⟩ := exists_rank_of_nonneg ((int64_nonneg_iff index).1 h)
    rw [GetVirtDriveName_of_rank hw hi]
    nofun
  case rsSupported =>
    intro index h
    obtain ⟨w, hw, hi⟩ := exists_rank_of_nonneg ((int32_nonneg_iff index).1 h)
    rw [get_virt_drive_name_of_rank hw hi]
    nofun

theorem virt_drive_name_shortlex_at_704 :
    get_virt_drive_name 704 = GetVirtDriveName (704 : Int32).toInt64 ∧
      GetVirtDriveName 704 ≠ .error "Index not supported" :=
  ⟨virt_drive_name_shortlex.2.1 704 (by decide),
    virt_drive_name_shortlex.2.2.2.2.2.2.1 704 (by decide)⟩

/-- The names of seven `z`s (Rust) and of fourteen (Go) have no index: their ranks are past the
largest `i32` and the largest `int`, while they are below `(26 ^ 8 - 26) / 25` and
`(26 ^ 15 - 26) / 25`. -/
theorem virt_drive_name_misses_long_names :
    (rank (List.replicate 7 (25 : Fin 26)) : Int) < ((26 : Int) ^ (7 + 1) - 26) / 25 ∧
    (∀ index : Int32, get_virt_drive_name index ≠ .ok (vd_name (List.replicate 7 25))) ∧
    (rank (List.replicate 14 (25 : Fin 26)) : Int) < ((26 : Int) ^ (14 + 1) - 26) / 25 ∧
    (∀ index : Int64, GetVirtDriveName index ≠ .ok (vd_name (List.replicate 14 25))) := by
  have h7 : rank (List.replicate 7 (25 : Fin 26)) = 8353082581 := by decide
  have h14 : rank (List.replicate 14 (25 : Fin 26)) = 67090373691429037013 := by decide
  refine ⟨by rw [h7]; decide, ?_, by rw [h14]; decide, ?_⟩
  · intro index h
    obtain ⟨w, -, hi, hs⟩ := (get_virt_drive_name_eq_ok_iff index _).1 h
    have hlt := Int32.toInt_lt index
    rw [← vd_name_inj hs, h7] at hi
    omega
  · intro index h
    obtain ⟨w, -, hi, hs⟩ := (GetVirtDriveName_eq_ok_iff index _).1 h
    have hlt := Int64.toInt_lt index
    rw [← vd_name_inj hs, h14] at hi
    omega

end KataContainers.Runtime.VirtDriveName
