import KataContainers.Runtime.PciPath

/-!
# PCI addresses in the agent

Model of `src/agent/src/pci.rs`: a `SlotFn` packs a slot number of five bits and a function number
of three bits in one byte, printed `SS.F`; an `Address` is a domain, a bus and a `SlotFn`, printed
`DDDD:BB:SS.F`; a `Path` is a non-empty list of `SlotFn`s joined by `/`. The integer parsers are
`from_str_radix` of the standard library, which takes a sign (`+`, and `-` for a signed type) and
fails on an empty text.

Each printer reads back through its parser (`SlotFn.from_str_to_string`,
`Address.from_str_to_string`, `Path.from_str_to_string`).

The agent reads the `Storage.source` and `Device.id` of a virtio-blk device as an `Address`
(`VirtioBlkPciHandler::create_device`, `virtio_blk_device_handler`), while the Go runtime sends
there the text of a `PciPath` (`kataAgent.handleBlockVolume`): a path of one slot in a domain
other than 0 reads as that slot's address (`Address.from_str_PciPath_String`), but a slot in
domain 0 is printed as two digits, with no `:`, and the agent rejects it
(`clh_domain_zero_path_rejected`).
-/

namespace KataContainers.Agent

open Radix

def SLOT_BITS : Nat := 5
def SLOT_MAX : Nat := (1 <<< SLOT_BITS) - 1
def FUNCTION_BITS : Nat := 3
def FUNCTION_MAX : Nat := (1 <<< FUNCTION_BITS) - 1

/-- The kind of a `ParseIntError`. -/
inductive IntErrorKind
  | Empty
  | InvalidDigit
  | PosOverflow
  | NegOverflow
  deriving DecidableEq, Repr

/-- The largest value of an integer type of `bits` bits, signed or not. -/
def int_max (signed : Bool) (bits : Nat) : Nat :=
  if signed then 2 ^ (bits - 1) - 1 else 2 ^ bits - 1

/-- The digits of a value of at most `max`. -/
def read_positive (radix max : Nat) (digits : List Char) : Except IntErrorKind Int :=
  match accumulate radix max 0 digits with
  | .ok n => .ok n
  | .error .invalidDigit => .error .InvalidDigit
  | .error .overflow => .error .PosOverflow

/-- The digits of the opposite of a value of at most `max`. -/
def read_negative (radix max : Nat) (digits : List Char) : Except IntErrorKind Int :=
  match accumulate radix max 0 digits with
  | .ok n => .ok (-(n : Int))
  | .error .invalidDigit => .error .InvalidDigit
  | .error .overflow => .error .NegOverflow

/-- `from_str_radix` of an integer type of `bits` bits, signed or not, read as its value. -/
def from_str_radix (signed : Bool) (bits : Nat) (src : List Char) (radix : Nat) :
    Except IntErrorKind Int :=
  match src with
  | [] => .error .Empty
  | ['+'] | ['-'] => .error .InvalidDigit
  | '+' :: digits => read_positive radix (int_max signed bits) digits
  | '-' :: digits =>
    if signed then read_negative radix (2 ^ (bits - 1)) digits
    else read_positive radix (int_max signed bits) src
  | _ => read_positive radix (int_max signed bits) src

/-- The errors of `pci.rs`. -/
inductive PciError
  /-- `"PCI slot {} should be in range [0..{:#x}]"` -/
  | slotRange (ss : Int)
  /-- `"PCI function {} should be in range [0..{:#x}]"` -/
  | functionRange (f : Int)
  /-- `"PCI slot/function {} should have the format SS.F"` -/
  | slotFnFormat (s : List Char)
  /-- `"PCI address {} should have the format DDDD:BB:SS.F"` -/
  | addressFormat (s : List Char)
  /-- `"PCI path must have at least one element"` -/
  | emptyPath
  /-- a `ParseIntError` passed on by `?` -/
  | parseInt (e : IntErrorKind)
  deriving DecidableEq, Repr

structure SlotFn where
  val : UInt8
  deriving DecidableEq, Repr

/-- `SlotFn::new` on values that `try_into` turns into a `u8` when they lie in `0..=255`. -/
def SlotFn.new (ss f : Int) : Except PciError SlotFn := do
  let ss8 ← if 0 ≤ ss ∧ ss ≤ 255 ∧ ss.toNat ≤ SLOT_MAX then pure ss.toNat else throw (.slotRange ss)
  let f8 ← if 0 ≤ f ∧ f ≤ 255 ∧ f.toNat ≤ FUNCTION_MAX then pure f.toNat
    else throw (.functionRange f)
  pure ⟨UInt8.ofNat ss8 <<< UInt8.ofNat FUNCTION_BITS ||| UInt8.ofNat f8⟩

def SlotFn.slot (sf : SlotFn) : UInt8 := sf.val >>> UInt8.ofNat FUNCTION_BITS

def SlotFn.function (sf : SlotFn) : UInt8 := sf.val &&& UInt8.ofNat FUNCTION_MAX

/-- `SlotFn::from_str`: one or two tokens around `.`, each read by `isize::from_str_radix`. -/
def SlotFn.from_str (s : List Char) : Except PciError SlotFn :=
  let tokens := s.splitOn '.'
  match tokens[0]?, tokens[1]?, tokens[2]? with
  | some slot, func, none => do
    let slot ← (from_str_radix true 64 slot 16).mapError .parseInt
    let func ← match func with
      | some func => (from_str_radix true 64 func 16).mapError .parseInt
      | none => pure 0
    SlotFn.new slot func
  | _, _, _ => throw (.slotFnFormat s)

/-- `Display for SlotFn`: `{:02x}.{:01x}`. -/
def SlotFn.to_string (sf : SlotFn) : List Char :=
  fmtHex 2 sf.slot.toNat ++ ['.'] ++ fmtHex 1 sf.function.toNat

structure Address where
  domain : UInt16
  bus : UInt8
  slotfn : SlotFn
  deriving DecidableEq, Repr

/-- `Address::get_sysfs_path`: `/devices/pci{:04x}:00/{:04x}:{:02x}:{}`. -/
def Address.get_sysfs_path (a : Address) : List Char :=
  "/devices/pci".toList ++ fmtHex 4 a.domain.toNat ++ ":00/".toList ++ fmtHex 4 a.domain.toNat ++
    [':'] ++ fmtHex 2 a.bus.toNat ++ [':'] ++ a.slotfn.to_string

/-- `Address::from_str`: exactly three tokens around `:`. -/
def Address.from_str (s : List Char) : Except PciError Address :=
  let tokens := s.splitOn ':'
  match tokens[0]?, tokens[1]?, tokens[2]?, tokens[3]? with
  | some domain, some bus, some slotfn, none => do
    let domain ← (from_str_radix false 16 domain 16).mapError .parseInt
    let bus ← (from_str_radix false 8 bus 16).mapError .parseInt
    let slotfn ← SlotFn.from_str slotfn
    pure ⟨UInt16.ofNat domain.toNat, UInt8.ofNat bus.toNat, slotfn⟩
  | _, _, _, _ => throw (.addressFormat s)

/-- `Display for Address`: `{:04x}:{:02x}:{}`. -/
def Address.to_string (a : Address) : List Char :=
  fmtHex 4 a.domain.toNat ++ [':'] ++ fmtHex 2 a.bus.toNat ++ [':'] ++ a.slotfn.to_string

/-- A PCI path: its field is private, and `Path::new` refuses an empty one. -/
structure Path where
  slots : List SlotFn
  nonempty : slots ≠ []
  deriving DecidableEq

def Path.new (slots : List SlotFn) : Except PciError Path :=
  if h : slots = [] then throw .emptyPath else pure ⟨slots, h⟩

/-- `Display for Path`: the slots joined by `/`. -/
def Path.to_string (p : Path) : List Char :=
  ['/'].intercalate (p.slots.map SlotFn.to_string)

def Path.from_str (s : List Char) : Except PciError Path := do
  let rslots ← (s.splitOn '/').mapM SlotFn.from_str
  Path.new rslots

/-! ## Printing and parsing back -/

/-- A text that starts with a letter or a digit has no sign: all of it is read as digits. -/
theorem from_str_radix_of_isAlphanum {signed : Bool} {bits radix : Nat} {c : Char}
    {rest : List Char} (hc : c.isAlphanum = true) :
    from_str_radix signed bits (c :: rest) radix =
      read_positive radix (int_max signed bits) (c :: rest) := by
  have hplus : c ≠ '+' := by rintro rfl; cases hc
  have hminus : c ≠ '-' := by rintro rfl; cases hc
  unfold from_str_radix
  split
  · contradiction
  · rename_i heq; exact absurd (List.cons.inj heq).1 hplus
  · rename_i heq; exact absurd (List.cons.inj heq).1 hminus
  · rename_i heq; exact absurd (List.cons.inj heq).1 hplus
  · rename_i heq; exact absurd (List.cons.inj heq).1 hminus
  · rfl

/-- Written hex digits read back by `from_str_radix`, when the value fits the type. -/
theorem from_str_radix_hexDigits {signed : Bool} {bits k n : Nat} (hk : 0 < k) (hn : n < 16 ^ k)
    (hmax : n ≤ int_max signed bits) : from_str_radix signed bits (hexDigits k n) 16 = .ok n := by
  obtain ⟨c, rest, hcons, hc⟩ := hexDigits_eq_cons (n := n) hk
  have hread := accumulate_hexDigits_of_lt hn hmax
  rw [hcons] at hread ⊢
  rw [from_str_radix_of_isAlphanum hc, read_positive, hread]

theorem from_str_radix_fmtHex {signed : Bool} {bits w n : Nat} (hw : 0 < w) (hn : n < 16 ^ w)
    (hmax : n ≤ int_max signed bits) : from_str_radix signed bits (fmtHex w n) 16 = .ok n := by
  rw [fmtHex_of_lt hw hn]
  exact from_str_radix_hexDigits hw hn hmax

theorem SlotFn.slot_toNat (sf : SlotFn) : sf.slot.toNat = sf.val.toNat / 8 := by
  rw [SlotFn.slot, UInt8.toNat_shiftRight, Nat.shiftRight_eq_div_pow]
  rfl

theorem SlotFn.function_toNat (sf : SlotFn) : sf.function.toNat = sf.val.toNat % 8 := by
  rw [SlotFn.function, UInt8.toNat_and]
  exact Nat.and_two_pow_sub_one_eq_mod sf.val.toNat 3

theorem SlotFn.slot_le (sf : SlotFn) : sf.slot.toNat ≤ 31 := by
  have := sf.val.toNat_lt
  rw [sf.slot_toNat]
  simp at this
  omega

theorem SlotFn.function_le (sf : SlotFn) : sf.function.toNat ≤ 7 := by
  rw [sf.function_toNat]
  omega

/-- A byte is its slot number shifted past the function bits, or-ed with its function number. -/
theorem SlotFn.pack_slot_function (sf : SlotFn) :
    UInt8.ofNat sf.slot.toNat <<< UInt8.ofNat FUNCTION_BITS ||| UInt8.ofNat sf.function.toNat =
      sf.val := by
  apply UInt8.toNat_inj.mp
  have hv : sf.val.toNat < 2 ^ 8 := sf.val.toNat_lt
  have hslot : (UInt8.ofNat sf.slot.toNat).toNat = sf.val.toNat / 8 := by
    rw [sf.slot_toNat]
    exact UInt8.toNat_ofNat_of_lt' (by simp [UInt8.size]; omega)
  have hfunc : (UInt8.ofNat sf.function.toNat).toNat = sf.val.toNat % 8 := by
    rw [sf.function_toNat]
    exact UInt8.toNat_ofNat_of_lt' (by simp [UInt8.size]; omega)
  -- the shifted slot number stays below `2 ^ 8`, and the function number fills the low bits
  have hshift : (sf.val.toNat / 8) <<< 3 % 2 ^ 8 = (sf.val.toNat / 8) <<< 3 := by
    rw [Nat.shiftLeft_eq]
    apply Nat.mod_eq_of_lt
    omega
  rw [UInt8.toNat_or, UInt8.toNat_shiftLeft, hslot, hfunc,
    show (UInt8.ofNat FUNCTION_BITS).toNat % 8 = 3 from rfl, hshift,
    ← Nat.shiftLeft_add_eq_or_of_lt (by omega), Nat.shiftLeft_eq]
  omega

/-- Building a `SlotFn` from its slot and function numbers gives it back. -/
theorem SlotFn.new_slot_function (sf : SlotFn) :
    SlotFn.new sf.slot.toNat sf.function.toNat = .ok sf := by
  have hs := sf.slot_le
  have hf := sf.function_le
  have h₁ : 0 ≤ (sf.slot.toNat : Int) ∧ (sf.slot.toNat : Int) ≤ 255 ∧ sf.slot.toNat ≤ SLOT_MAX := by
    simp only [SLOT_MAX, SLOT_BITS]
    omega
  have h₂ : 0 ≤ (sf.function.toNat : Int) ∧ (sf.function.toNat : Int) ≤ 255 ∧
      sf.function.toNat ≤ FUNCTION_MAX := by
    simp only [FUNCTION_MAX, FUNCTION_BITS]
    omega
  simp only [SlotFn.new, Int.toNat_natCast, pure_bind]
  rw [if_pos h₁, if_pos h₂, sf.pack_slot_function]
  rfl

theorem SlotFn.from_str_to_string (sf : SlotFn) : SlotFn.from_str sf.to_string = .ok sf := by
  have hsplit : sf.to_string.splitOn '.' = [fmtHex 2 sf.slot.toNat, fmtHex 1 sf.function.toNat] := by
    have hjoin : sf.to_string = ['.'].intercalate [fmtHex 2 sf.slot.toNat, fmtHex 1 sf.function.toNat] := by
      simp [SlotFn.to_string, List.intercalate]
    rw [hjoin]
    refine List.splitOn_intercalate '.' (fun l hl => ?_) (by simp)
    simp only [List.mem_cons, List.not_mem_nil, or_false] at hl
    rcases hl with rfl | rfl <;> exact not_mem_fmtHex (by decide)
  have hs := sf.slot_le
  have hf := sf.function_le
  have hslot : from_str_radix true 64 (fmtHex 2 sf.slot.toNat) 16 = .ok sf.slot.toNat :=
    from_str_radix_fmtHex (by decide) (by simp; omega) (by simp [int_max]; omega)
  have hfunc : from_str_radix true 64 (fmtHex 1 sf.function.toNat) 16 = .ok sf.function.toNat :=
    from_str_radix_fmtHex (by decide) (by simp; omega) (by simp [int_max]; omega)
  unfold SlotFn.from_str
  simp only [hsplit, List.getElem?_cons_zero, List.getElem?_cons_succ, List.getElem?_nil, hslot,
    hfunc, Except.mapError_ok, Except.ok_bind_eq]
  exact sf.new_slot_function

/-- The text of a `SlotFn` is hex digits around one `.`. -/
theorem SlotFn.not_mem_to_string {sf : SlotFn} {c : Char} (hc : c.isAlphanum = false)
    (hdot : c ≠ '.') : c ∉ sf.to_string := by
  simp only [SlotFn.to_string, List.mem_append, List.mem_singleton, not_or]
  exact ⟨⟨not_mem_fmtHex hc, hdot⟩, not_mem_fmtHex hc⟩

theorem Address.from_str_to_string (a : Address) : Address.from_str a.to_string = .ok a := by
  have hsplit : a.to_string.splitOn ':' =
      [fmtHex 4 a.domain.toNat, fmtHex 2 a.bus.toNat, a.slotfn.to_string] := by
    have hjoin : a.to_string =
        [':'].intercalate [fmtHex 4 a.domain.toNat, fmtHex 2 a.bus.toNat, a.slotfn.to_string] := by
      simp [Address.to_string, List.intercalate]
    rw [hjoin]
    refine List.splitOn_intercalate ':' (fun l hl => ?_) (by simp)
    simp only [List.mem_cons, List.not_mem_nil, or_false] at hl
    rcases hl with rfl | rfl | rfl
    · exact not_mem_fmtHex (by decide)
    · exact not_mem_fmtHex (by decide)
    · exact SlotFn.not_mem_to_string (by decide) (by decide)
  have hdomain : from_str_radix false 16 (fmtHex 4 a.domain.toNat) 16 = .ok a.domain.toNat :=
    from_str_radix_fmtHex (by decide) a.domain.toNat_lt (by have := a.domain.toNat_lt; simp [int_max] at this ⊢; omega)
  have hbus : from_str_radix false 8 (fmtHex 2 a.bus.toNat) 16 = .ok a.bus.toNat :=
    from_str_radix_fmtHex (by decide) a.bus.toNat_lt (by have := a.bus.toNat_lt; simp [int_max] at this ⊢; omega)
  unfold Address.from_str
  simp only [hsplit, List.getElem?_cons_zero, List.getElem?_cons_succ, List.getElem?_nil, hdomain,
    hbus, Except.mapError_ok, Except.ok_bind_eq, a.slotfn.from_str_to_string, Int.toNat_natCast,
    UInt16.ofNat_toNat, UInt8.ofNat_toNat]
  rfl

theorem Path.from_str_to_string (p : Path) : Path.from_str p.to_string = .ok p := by
  have hsplit : p.to_string.splitOn '/' = p.slots.map SlotFn.to_string :=
    List.splitOn_intercalate '/' (fun l hl => by
      obtain ⟨sf, -, rfl⟩ := List.mem_map.mp hl
      exact SlotFn.not_mem_to_string (by decide) (by decide)) (by simpa using p.nonempty)
  unfold Path.from_str
  rw [hsplit, Except.mapM_map_eq_ok fun sf _ => sf.from_str_to_string, Except.ok_bind_eq, Path.new,
    dif_neg p.nonempty]
  rfl

/-! ## The text the Go runtime sends -/

section
open KataContainers.Runtime

/-- A slot and a function of the right widths build the `SlotFn` that holds them. -/
theorem SlotFn.new_ok {ss f : Nat} (hs : ss ≤ 31) (hf : f ≤ 7) :
    ∃ sf, SlotFn.new ss f = .ok sf ∧ sf.slot.toNat = ss ∧ sf.function.toNat = f := by
  have h₁ : 0 ≤ (ss : Int) ∧ (ss : Int) ≤ 255 ∧ ss ≤ SLOT_MAX := by
    simp only [SLOT_MAX, SLOT_BITS]
    omega
  have h₂ : 0 ≤ (f : Int) ∧ (f : Int) ≤ 255 ∧ f ≤ FUNCTION_MAX := by
    simp only [FUNCTION_MAX, FUNCTION_BITS]
    omega
  refine ⟨_, by simp only [SlotFn.new, Int.toNat_natCast, pure_bind]; rw [if_pos h₁, if_pos h₂]; rfl, ?_⟩
  -- the packed byte is `ss * 8 + f`
  have hval : (UInt8.ofNat ss <<< UInt8.ofNat FUNCTION_BITS ||| UInt8.ofNat f).toNat = ss * 8 + f := by
    have hss : (UInt8.ofNat ss).toNat = ss := UInt8.toNat_ofNat_of_lt' (by simp [UInt8.size]; omega)
    have hff : (UInt8.ofNat f).toNat = f := UInt8.toNat_ofNat_of_lt' (by simp [UInt8.size]; omega)
    have hshift : ss <<< 3 % 2 ^ 8 = ss <<< 3 := by
      rw [Nat.shiftLeft_eq]
      apply Nat.mod_eq_of_lt
      omega
    rw [UInt8.toNat_or, UInt8.toNat_shiftLeft, hss, hff,
      show (UInt8.ofNat FUNCTION_BITS).toNat % 8 = 3 from rfl, hshift,
      ← Nat.shiftLeft_add_eq_or_of_lt (by omega), Nat.shiftLeft_eq]
  constructor
  · rw [SlotFn.slot_toNat]
    simp only [hval]
    omega
  · rw [SlotFn.function_toNat]
    simp only [hval]
    omega

/-- A path of one valid slot in a domain other than 0 reads, in the agent, as the address of that
slot's function 0 on bus 0 of its domain. -/
theorem Address.from_str_PciPath_String {s : PciSlot} (hs : s.Valid) (hd : s.domain ≠ 0) :
    ∃ a, Address.from_str (PciPath.String ⟨[s]⟩) = .ok a ∧ a.domain = s.domain ∧ a.bus = 0 ∧
      a.slotfn.slot = s.slot ∧ a.slotfn.function = 0 := by
  have hslot : s.slot.toNat ≤ 31 := hs
  obtain ⟨sf, hsf, hsl, hfn⟩ := SlotFn.new_ok hslot (Nat.zero_le 7)
  have htext : PciPath.String ⟨[s]⟩ = s.String := by simp [PciPath.String]
  have hdomain : from_str_radix false 16 (fmtHex 4 s.domain.toNat) 16 = .ok s.domain.toNat :=
    from_str_radix_fmtHex (by decide) s.domain.toNat_lt (by have := s.domain.toNat_lt; simp [int_max] at this ⊢; omega)
  have hbus : from_str_radix false 8 ['0', '0'] 16 = .ok 0 := by decide
  have hzero : from_str_radix true 64 ['0'] 16 = .ok 0 := by decide
  have hslotfn : SlotFn.from_str (fmtHex 2 s.slot.toNat ++ ['.', '0']) = .ok sf := by
    have hread : from_str_radix true 64 (fmtHex 2 s.slot.toNat) 16 = .ok s.slot.toNat :=
      from_str_radix_fmtHex (by decide) s.slot.toNat_lt (by simp [int_max]; omega)
    unfold SlotFn.from_str
    simp only [splitOn_device, List.getElem?_cons_zero, List.getElem?_cons_succ, List.getElem?_nil,
      hread, hzero, Except.mapError_ok, Except.ok_bind_eq]
    simpa using hsf
  refine ⟨⟨s.domain, 0, sf⟩, ?_, rfl, rfl, UInt8.toNat_inj.mp hsl, UInt8.toNat_inj.mp hfn⟩
  unfold Address.from_str
  simp only [htext, PciSlot.String_splitOn_colon hd, List.getElem?_cons_zero, List.getElem?_cons_succ,
    List.getElem?_nil, hdomain, hbus, hslotfn, Except.mapError_ok, Except.ok_bind_eq,
    Int.toNat_natCast, UInt16.ofNat_toNat]
  rfl

/-- A path whose slots all lie in domain 0 (one slot on the root bus, or a path through bridges)
is printed with no `:`: the agent rejects it as an address. -/
theorem Address.from_str_PciPath_String_domain_zero {p : PciPath} (hd : ∀ s ∈ p.slots, s.domain = 0) :
    Address.from_str p.String = .error (.addressFormat p.String) := by
  unfold Address.from_str
  rw [List.splitOn_eq_singleton (PciPath.colon_not_mem_String hd)]
  rfl

/-- cloud-hypervisor's address `0000:00:05.0` of a block device: the runtime accepts it as the path
of slot 5 in domain 0, prints that path as `05` into the `Storage.source` it sends, and the agent
does not read `05` as a PCI address. -/
theorem clh_domain_zero_path_rejected :
    clhPciInfoToPath "0000:00:05.0".toList = .ok ⟨[⟨0, 5⟩]⟩ ∧
      PciPath.String ⟨[⟨0, 5⟩]⟩ = "05".toList ∧
      Address.from_str (PciPath.String ⟨[⟨0, 5⟩]⟩) = .error (.addressFormat "05".toList) := by
  have htext : PciPath.String ⟨[⟨0, 5⟩]⟩ = "05".toList := by decide
  refine ⟨by decide, htext, ?_⟩
  rw [Address.from_str_PciPath_String_domain_zero (by simp), htext]

/-- What the agent reads of a path of one valid slot: the address of that slot's function 0 on bus
0 of its domain when the domain is not 0, and an error on domain 0. -/
theorem agent_reads_single_slot_path {s : PciSlot} (hs : s.Valid) :
    (s.domain ≠ 0 → ∃ a, Address.from_str (PciPath.String ⟨[s]⟩) = .ok a ∧ a.domain = s.domain ∧
      a.bus = 0 ∧ a.slotfn.slot = s.slot ∧ a.slotfn.function = 0) ∧
    (s.domain = 0 → Address.from_str (PciPath.String ⟨[s]⟩) =
      .error (.addressFormat (PciPath.String ⟨[s]⟩))) :=
  ⟨Address.from_str_PciPath_String hs, fun hd =>
    Address.from_str_PciPath_String_domain_zero (by simpa using hd)⟩

theorem agent_reads_single_slot_path_segment_one :
    PciSlot.Valid ⟨1, 5⟩ ∧
    ((PciSlot.domain ⟨1, 5⟩ ≠ 0 → ∃ a, Address.from_str (PciPath.String ⟨[⟨1, 5⟩]⟩) = .ok a ∧
      a.domain = 1 ∧ a.bus = 0 ∧ a.slotfn.slot = 5 ∧ a.slotfn.function = 0) ∧
    (PciSlot.domain ⟨1, 5⟩ = 0 → Address.from_str (PciPath.String ⟨[⟨1, 5⟩]⟩) =
      .error (.addressFormat (PciPath.String ⟨[⟨1, 5⟩]⟩)))) :=
  ⟨by decide, agent_reads_single_slot_path (by decide)⟩

end

/-- The agent's printers read back through its parsers. -/
theorem agent_pci_round_trips :
    (∀ sf : SlotFn, SlotFn.from_str sf.to_string = .ok sf) ∧
    (∀ a : Address, Address.from_str a.to_string = .ok a) ∧
    ∀ p : Path, Path.from_str p.to_string = .ok p :=
  ⟨SlotFn.from_str_to_string, Address.from_str_to_string, Path.from_str_to_string⟩

end KataContainers.Agent
