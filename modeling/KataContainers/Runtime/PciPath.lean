import KataContainers.Lib.Radix
import KataContainers.Lib.List

/-!
# PCI paths in the Go runtime

Model of `src/runtime/virtcontainers/types/pcipath.go` and of `clhPciInfoToPath` in
`src/runtime/virtcontainers/clh.go`. A `PciSlot` is a PCI domain and a slot number, printed as two
hex digits on domain 0 and as `DDDD:00:SS.0` otherwise; a `PciPath` is the list of slots from the
root bus to the device, printed joined by `/`. Strings are lists of characters: `strings.Split`
with a one-character separator is `List.splitOn`, `strings.Join` is `List.intercalate`, and
`strconv.ParseUint` in base 16 is `ParseUint`.

Every slot that a constructor builds has a slot number of five bits (`PciPath.Valid`:
`PciPathFromString_valid`, `PciSlotFromInt_valid`, `clhPciInfoToPath_valid`), and on such paths
parsing gives back what was printed (`PciPathFromString_String`).
-/

namespace KataContainers.Runtime

open Radix

def pciSlotBits : Nat := 5
def maxPciSlot : Nat := (1 <<< pciSlotBits) - 1
def pcidomainBits : Nat := 16

/-- The error of `strconv.ParseUint`, with the text it read. -/
inductive NumError
  | ErrSyntax (num : List Char)
  | ErrRange (num : List Char)
  deriving DecidableEq, Repr

/-- `strconv.ParseUint(s, base, bitSize)` for a base in `2..36` and a size in `1..64`: no sign, no
prefix, no underscore; a value above `2 ^ bitSize - 1` is out of range. -/
def ParseUint (s : List Char) (base bitSize : Nat) : Except NumError Nat :=
  if s = [] then .error (.ErrSyntax s)
  else match accumulate base (2 ^ bitSize - 1) 0 s with
    | .ok n => .ok n
    | .error .invalidDigit => .error (.ErrSyntax s)
    | .error .overflow => .error (.ErrRange s)

/-- The errors of the PCI path functions. -/
inductive PciError
  /-- an error of `strconv.ParseUint` -/
  | num (e : NumError)
  /-- `"Unexpected PCI bus index %q"` -/
  | unexpectedBus (tok : List Char)
  /-- `"Unexpected PCI BDF device format %q"` -/
  | unexpectedDevice (tok : List Char)
  /-- `"PCI slot 0x%x should be in range [0..0x%x]"` -/
  | slotRange (v : Int)
  /-- `"PCI path needs at least one component"` -/
  | noComponent
  /-- `"Unexpected PCI address %q from clh hotplug"` -/
  | unexpectedClh (bdf : List Char)
  deriving DecidableEq, Repr

structure PciSlot where
  domain : UInt16
  slot : UInt8
  deriving DecidableEq, Repr

def PciSlotFromDeviceIndexString (s : List Char) : Except NumError Nat :=
  ParseUint s 16 pciSlotBits

/-- `PciSlotFromBdfString`, on the three tokens of a `DDDD:BB:SS.F` address that its caller split
(`getD` stands for Go's indexing, which the caller keeps in bounds). -/
def PciSlotFromBdfString (bdfTokens : List (List Char)) : Except PciError PciSlot := do
  if bdfTokens.getD 1 [] ≠ "00".toList then throw (.unexpectedBus (bdfTokens.getD 1 []))
  let domain ← (ParseUint (bdfTokens.getD 0 []) 16 pcidomainBits).mapError .num
  let deviceTokens := (bdfTokens.getD 2 []).splitOn '.'
  if deviceTokens.length ≠ 2 ∨ deviceTokens.getD 1 [] ≠ ['0'] ∨
      (deviceTokens.getD 0 []).length ≠ 2 then
    throw (.unexpectedDevice (bdfTokens.getD 2 []))
  let device ← (PciSlotFromDeviceIndexString (deviceTokens.getD 0 [])).mapError .num
  pure ⟨UInt16.ofNat domain, UInt8.ofNat device⟩

def PciSlotFromString (s : List Char) : Except PciError PciSlot :=
  let tokens := s.splitOn ':'
  if tokens.length = 3 then PciSlotFromBdfString tokens
  else do
    let device ← (PciSlotFromDeviceIndexString s).mapError .num
    pure ⟨0, UInt8.ofNat device⟩

def PciSlotFromInt (v : Int) : Except PciError PciSlot :=
  if v < 0 ∨ v > maxPciSlot then throw (.slotRange v) else pure ⟨0, UInt8.ofNat v.toNat⟩

/-- `PciSlot.String`: `%02x` of the slot on domain 0, `%04x:00:%02x.0` otherwise. -/
def PciSlot.String (slot : PciSlot) : List Char :=
  if slot.domain = 0 then fmtHex 2 slot.slot.toNat
  else fmtHex 4 slot.domain.toNat ++ ":00:".toList ++ fmtHex 2 slot.slot.toNat ++ ".0".toList

structure PciPath where
  slots : List PciSlot
  deriving DecidableEq, Repr

def PciPath.String (p : PciPath) : List Char :=
  ['/'].intercalate (p.slots.map PciSlot.String)

def PciPathFromString (s : List Char) : Except PciError PciPath :=
  if s = [] then pure ⟨[]⟩
  else do
    let slots ← (s.splitOn '/').mapM PciSlotFromString
    pure ⟨slots⟩

def PciPathFromSlots (slots : List PciSlot) : Except PciError PciPath :=
  if slots.length = 0 then throw .noComponent else pure ⟨slots⟩

/-- The regular expression `^000[0-9]$` of `clhPciInfoToPath`: one of ten PCI segments. -/
def pciSegment : List Char → Bool
  | ['0', '0', '0', d] => d.isDigit
  | _ => false

/-- `clhPciInfoToPath` on the `Bdf` field of the `PciDeviceInfo` that cloud-hypervisor reports. -/
def clhPciInfoToPath (bdf : List Char) : Except PciError PciPath := do
  let tokens := bdf.splitOn ':'
  if tokens.length ≠ 3 ∨ tokens.getD 1 [] ≠ "00".toList then throw (.unexpectedClh bdf)
  if !pciSegment (tokens.getD 0 []) then throw (.unexpectedClh bdf)
  let tokens := (tokens.getD 2 []).splitOn '.'
  if tokens.length ≠ 2 ∨ tokens.getD 1 [] ≠ ['0'] ∨ (tokens.getD 0 []).length ≠ 2 then
    throw (.unexpectedClh bdf)
  PciPathFromString bdf

/-! ## Slots of five bits -/

/-- A slot number of five bits, as the PCI specification reserves. -/
def PciSlot.Valid (s : PciSlot) : Prop := s.slot.toNat ≤ maxPciSlot

def PciPath.Valid (p : PciPath) : Prop := ∀ s ∈ p.slots, s.Valid

instance (s : PciSlot) : Decidable s.Valid := inferInstanceAs (Decidable (_ ≤ _))

instance (p : PciPath) : Decidable p.Valid := List.decidableBAll _ p.slots

theorem ParseUint_le {s : List Char} {base bitSize n : Nat} (h : ParseUint s base bitSize = .ok n) :
    n ≤ 2 ^ bitSize - 1 := by
  unfold ParseUint at h
  split at h
  · cases h
  · split at h
    · cases h
      exact accumulate_le (Nat.zero_le _) (by assumption)
    · cases h
    · cases h

theorem PciSlotFromDeviceIndexString_le {s : List Char} {n : Nat}
    (h : PciSlotFromDeviceIndexString s = .ok n) : n ≤ maxPciSlot :=
  ParseUint_le h

/-- A slot number read from hex is a valid `uint8`. -/
theorem valid_of_le {d : UInt16} {n : Nat} (h : n ≤ maxPciSlot) : (PciSlot.mk d (UInt8.ofNat n)).Valid := by
  have hn : n < UInt8.size := by
    have hsize : UInt8.size = 256 := rfl
    unfold maxPciSlot pciSlotBits at h
    simp at h
    omega
  show (UInt8.ofNat n).toNat ≤ maxPciSlot
  rw [UInt8.toNat_ofNat_of_lt' hn]
  exact h

theorem PciSlotFromBdfString_valid {ts : List (List Char)} {s : PciSlot}
    (h : PciSlotFromBdfString ts = .ok s) : s.Valid := by
  unfold PciSlotFromBdfString at h
  simp only [Except.ite_throw_eq_ok, Except.bind_eq_ok_iff] at h
  obtain ⟨-, _, -, -, device, hdev, hs⟩ := h
  cases hs
  exact valid_of_le (PciSlotFromDeviceIndexString_le (Except.mapError_eq_ok.mp hdev))

theorem PciSlotFromString_valid {str : List Char} {s : PciSlot} (h : PciSlotFromString str = .ok s) :
    s.Valid := by
  unfold PciSlotFromString at h
  dsimp only at h
  split at h
  · exact PciSlotFromBdfString_valid h
  · obtain ⟨device, hdev, hs⟩ := Except.bind_eq_ok_iff.mp h
    cases hs
    exact valid_of_le (PciSlotFromDeviceIndexString_le (Except.mapError_eq_ok.mp hdev))

theorem PciSlotFromInt_valid {v : Int} {s : PciSlot} (h : PciSlotFromInt v = .ok s) : s.Valid := by
  unfold PciSlotFromInt at h
  split at h
  · cases h
  · rename_i hv
    cases h
    exact valid_of_le (by omega)

theorem PciPathFromString_valid {str : List Char} {p : PciPath} (h : PciPathFromString str = .ok p) :
    p.Valid := by
  unfold PciPathFromString at h
  split at h
  · cases h
    intro s hs
    cases hs
  · obtain ⟨slots, hslots, hp⟩ := Except.bind_eq_ok_iff.mp h
    cases hp
    intro s hs
    obtain ⟨t, -, ht⟩ := Except.exists_of_mapM_eq_ok hslots hs
    exact PciSlotFromString_valid ht

theorem PciPathFromSlots_valid {slots : List PciSlot} {p : PciPath} (hs : ∀ s ∈ slots, s.Valid)
    (h : PciPathFromSlots slots = .ok p) : p.Valid := by
  unfold PciPathFromSlots at h
  split at h
  · cases h
  · cases h
    exact hs

theorem clhPciInfoToPath_valid {bdf : List Char} {p : PciPath} (h : clhPciInfoToPath bdf = .ok p) :
    p.Valid := by
  unfold clhPciInfoToPath at h
  simp only [Except.ite_throw_eq_ok] at h
  exact PciPathFromString_valid h.2.2.2


/-! ## Printing and parsing back -/

theorem ParseUint_hexDigits {k n bitSize : Nat} (hk : 0 < k) (hn : n < 16 ^ k)
    (hb : n ≤ 2 ^ bitSize - 1) : ParseUint (hexDigits k n) 16 bitSize = .ok n := by
  have hne : hexDigits k n ≠ [] := by
    intro h
    have := congrArg List.length h
    simp at this
    omega
  unfold ParseUint
  rw [if_neg hne, accumulate_hexDigits_of_lt hn hb]

theorem slot_lt (s : PciSlot) : s.slot.toNat < 16 ^ 2 := s.slot.toNat_lt

theorem domain_lt (s : PciSlot) : s.domain.toNat < 16 ^ 4 := s.domain.toNat_lt

/-- The printed slot number is its two hex digits, and it reads back as the slot. -/
theorem PciSlotFromDeviceIndexString_fmtHex {s : PciSlot} (hs : s.Valid) :
    PciSlotFromDeviceIndexString (fmtHex 2 s.slot.toNat) = .ok s.slot.toNat := by
  rw [fmtHex_of_lt (by decide) (slot_lt s)]
  exact ParseUint_hexDigits (by decide) (slot_lt s) hs

/-- The printed domain reads back as the domain. -/
theorem ParseUint_domain (s : PciSlot) :
    ParseUint (fmtHex 4 s.domain.toNat) 16 pcidomainBits = .ok s.domain.toNat := by
  rw [fmtHex_of_lt (by decide) (domain_lt s)]
  exact ParseUint_hexDigits (by decide) (domain_lt s) (by have := domain_lt s; simp [pcidomainBits]; omega)

/-- A printed slot holds no `/`. -/
theorem PciSlot.slash_not_mem_String (s : PciSlot) : '/' ∉ s.String := by
  unfold PciSlot.String
  split
  · exact not_mem_fmtHex (by decide)
  · simp only [List.mem_append, not_or]
    exact ⟨⟨⟨not_mem_fmtHex (by decide), by decide⟩, not_mem_fmtHex (by decide)⟩, by decide⟩

/-- The text of a slot in a domain other than 0 splits at `:` into domain, bus and device. -/
theorem PciSlot.String_splitOn_colon {s : PciSlot} (hd : s.domain ≠ 0) :
    s.String.splitOn ':' =
      [fmtHex 4 s.domain.toNat, ['0', '0'], fmtHex 2 s.slot.toNat ++ ['.', '0']] := by
  have hjoin : s.String = [':'].intercalate
      [fmtHex 4 s.domain.toNat, ['0', '0'], fmtHex 2 s.slot.toNat ++ ['.', '0']] := by
    simp [PciSlot.String, hd, List.intercalate]
  rw [hjoin]
  refine List.splitOn_intercalate ':' (fun l hl => ?_) (by simp)
  simp only [List.mem_cons, List.not_mem_nil, or_false] at hl
  rcases hl with rfl | rfl | rfl
  · exact not_mem_fmtHex (by decide)
  · decide
  · simp only [List.mem_append, not_or]
    exact ⟨not_mem_fmtHex (by decide), by decide⟩

/-- The device token splits at `.` into the slot and the function `0`. -/
theorem splitOn_device (n : Nat) : (fmtHex 2 n ++ ['.', '0']).splitOn '.' = [fmtHex 2 n, ['0']] := by
  have hjoin : fmtHex 2 n ++ ['.', '0'] = ['.'].intercalate [fmtHex 2 n, ['0']] := by
    simp [List.intercalate]
  rw [hjoin]
  refine List.splitOn_intercalate '.' (fun l hl => ?_) (by simp)
  simp only [List.mem_cons, List.not_mem_nil, or_false] at hl
  rcases hl with rfl | rfl
  · exact not_mem_fmtHex (by decide)
  · decide

/-- A valid slot reads back from its text. -/
theorem PciSlotFromString_String {s : PciSlot} (hs : s.Valid) : PciSlotFromString s.String = .ok s := by
  by_cases hd : s.domain = 0
  · -- domain 0: two hex digits, no `:`
    have htext : s.String = fmtHex 2 s.slot.toNat := by simp [PciSlot.String, hd]
    unfold PciSlotFromString
    dsimp only
    rw [htext, List.splitOn_eq_singleton (not_mem_fmtHex (by decide)), if_neg (by simp),
      PciSlotFromDeviceIndexString_fmtHex hs]
    obtain ⟨domain, slot⟩ := s
    simp only at hd
    subst hd
    simp
  · -- `DDDD:00:SS.0`: three tokens, the last of them two tokens around `.`
    have hlen : (fmtHex 2 s.slot.toNat).length = 2 := by
      rw [fmtHex_of_lt (by decide) (slot_lt s), length_hexDigits]
    unfold PciSlotFromString
    dsimp only
    rw [PciSlot.String_splitOn_colon hd, if_pos (by simp)]
    unfold PciSlotFromBdfString
    simp [ParseUint_domain, splitOn_device, hlen, PciSlotFromDeviceIndexString_fmtHex hs]

/-- A path of valid slots reads back from its text. -/
theorem PciPathFromString_String_of_valid {p : PciPath} (hp : p.Valid) :
    PciPathFromString p.String = .ok p := by
  obtain ⟨slots⟩ := p
  cases slots with
  | nil => rfl
  | cons s rest =>
    have hsplit : (PciPath.String ⟨s :: rest⟩).splitOn '/' = (s :: rest).map PciSlot.String :=
      List.splitOn_intercalate '/' (fun l hl => by
        obtain ⟨t, -, rfl⟩ := List.mem_map.mp hl
        exact t.slash_not_mem_String) (by simp)
    -- the text is not empty, since its first token is not
    have hne : PciPath.String ⟨s :: rest⟩ ≠ [] := by
      intro h
      rw [h, List.splitOn_nil, List.map_cons, List.cons.injEq] at hsplit
      have := congrArg List.length hsplit.1
      unfold PciSlot.String at this
      split at this <;> simp [fmtHex] at this; omega
    unfold PciPathFromString
    rw [if_neg hne, hsplit, Except.mapM_map_eq_ok fun x hx => PciSlotFromString_String (hp x hx)]
    rfl

/-- Go's round trip: a path of valid slots reads back from its text; and every path the runtime
builds has valid slots, whether parsed by `PciPathFromString`, read from Cloud Hypervisor's BDF by
`clhPciInfoToPath`, or made by `PciPathFromSlots` from slots of `PciSlotFromString` or
`PciSlotFromInt`. -/
theorem PciPathFromString_String :
    (∀ p : PciPath, p.Valid → PciPathFromString p.String = .ok p) ∧
    (∀ str p, PciPathFromString str = .ok p → p.Valid) ∧
    (∀ bdf p, clhPciInfoToPath bdf = .ok p → p.Valid) ∧
    (∀ slots p, (∀ s ∈ slots, (∃ str, PciSlotFromString str = .ok s) ∨ ∃ v, PciSlotFromInt v = .ok s) →
      PciPathFromSlots slots = .ok p → p.Valid) := by
  refine ⟨fun p hp => PciPathFromString_String_of_valid hp, fun str p h => PciPathFromString_valid h,
    fun bdf p h => clhPciInfoToPath_valid h, fun slots p hs h => ?_⟩
  -- each slot comes from one of the two parsers, both of which give valid slots
  refine PciPathFromSlots_valid (fun s hm => ?_) h
  rcases hs s hm with ⟨str, hstr⟩ | ⟨v, hv⟩
  · exact PciSlotFromString_valid hstr
  · exact PciSlotFromInt_valid hv

theorem PciPathFromString_String_bridge :
    PciPath.Valid ⟨[⟨0, 2⟩, ⟨1, 3⟩]⟩ ∧
      PciPathFromString (PciPath.String ⟨[⟨0, 2⟩, ⟨1, 3⟩]⟩) = .ok ⟨[⟨0, 2⟩, ⟨1, 3⟩]⟩ :=
  ⟨by decide, PciPathFromString_String.1 _ (by decide)⟩

/-- The text of a path whose slots all lie in domain 0 holds no `:`. -/
theorem PciPath.colon_not_mem_String {p : PciPath} (hd : ∀ s ∈ p.slots, s.domain = 0) :
    ':' ∉ p.String := by
  intro h
  rcases List.mem_intercalate h with h | ⟨l, hl, h⟩
  · simp at h
  · obtain ⟨s, hs, rfl⟩ := List.mem_map.mp hl
    simp only [PciSlot.String, hd s hs, if_true] at h
    exact not_mem_fmtHex (by decide) h

end KataContainers.Runtime
