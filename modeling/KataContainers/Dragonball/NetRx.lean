import KataContainers.Lib.Transition
import KataContainers.Dragonball.Memory
import KataContainers.Dragonball.RateLimiter

/-!
# The receive path of virtio-net

Model of the RX side of `NetEpollHandler` in `dbs_virtio_devices/src/net.rs`: `process_rx` reads
frames from the tap and hands each to `rate_limited_rx_single_frame`, which takes one operation
and the frame's bytes from the rate limiter and calls `rx_single_frame`; that pops the next
descriptor chain the driver made available, writes the frame into its write-only buffers in guest
memory, adds a used element with the count written, and fails when the chain took less than the
frame. A failed frame is kept in `frame_buf` (`deferred_frame`) and tried again on the next event
of the RX queue, of the tap or of the rate limiter (`resume_rx`); the tokens of a failed attempt
are given back.

Guest memory is seen through `GuestBytes`: `mem.write` may write part of a buffer, and its error
ends the copy. The rate limiter is `RateLimiter`, whose token buckets refill with the time that
passes between events (`Event.elapse`); a bucket whose refill fraction has a zero divisor makes
`consume` panic, and the handler then stops for good (`Rx.halted`). The frames that arrived at
the tap, the frames delivered whole and the tokens taken are kept alongside the handler's state to
state the invariants.

Each call gets one spec lemma (`rate_limited_rx_single_frame_spec` and those it is built from),
which says what it moves of the frames (`Delivers`) and of the tokens. From them, over every run
(`Inv.run`): while the handler runs, the frames delivered whole, then the deferred frame, then the
frames in the tap, are the frames that arrived, in order; and the limiter holds one operation and
the frame's bytes for each frame delivered whole, nothing for the rest (`Accounted`). With a
limiter whose buckets refill, it runs for ever (`run_not_halted`). But a chain too small for the
frame still gets a used element with the bytes that fit (`rx_single_frame_partial`), and the frame
is then written whole into the next chain, so the guest receives its first bytes twice
(`rx_partial_frame_redelivered`).
-/

namespace KataContainers.Dragonball.Net

open RateLimiter (TokenType)

/-- A frame read from the tap. -/
abbrev Frame := List UInt8

/-- A descriptor of an RX chain: the guest address and length of its buffer, and whether the
device may write it. -/
structure Desc where
  addr : UInt64
  len : Nat
  write_only : Bool
  deriving DecidableEq, Repr

/-- A descriptor chain the driver made available. -/
structure DescriptorChain where
  head_index : Nat
  descs : List Desc
  deriving DecidableEq, Repr

/-- An element of the used ring, with what was written into each buffer of the chain. -/
structure UsedElem where
  id : Nat
  len : Nat
  buffers : List Frame
  deriving DecidableEq, Repr

/-- The RX half of the handler, with the tap, the RX queue and the guest memory it works on. -/
structure Rx (M : Type) where
  /-- The frames waiting in the tap. -/
  tap : List Frame
  /-- `frame_buf[..bytes_read]`. -/
  frame_buf : Frame
  deferred_frame : Bool
  deferred_irqs : Bool
  /-- The chains the driver made available and the device has not taken. -/
  avail : List DescriptorChain
  used : List UsedElem
  rate_limiter : RateLimiter
  /-- Interrupts sent to the guest. -/
  irqs : Nat
  mem : M
  /-- The instant, in nanoseconds. -/
  now : Nat
  /-- The limiter panicked, and the handler's thread with it. -/
  halted : Bool
  /-- The frames that arrived at the tap. -/
  arrived : List Frame
  /-- The frames delivered whole (`rx_packets_count`). -/
  delivered : List Frame
  /-- The tokens the rate limiter holds, taken less given back. -/
  ops_charged : Nat
  bytes_charged : Nat

namespace Rx

variable {M : Type} [GuestBytes M]

/-- The RX half as the handler starts, at the instant `0`: nothing in the tap or the queue, nothing
deferred. -/
def init (mem : M) (rate_limiter : RateLimiter) : Rx M :=
  ⟨[], [], false, false, [], [], rate_limiter, 0, mem, 0, false, [], [], 0, 0⟩

/-- The copy loop of `rx_single_frame` from `write_count` bytes on: the count written, what was
written into each descriptor's buffer, and the guest memory after the writes. -/
def write_descs (frame_buf : Frame) : List Desc → Nat → M → Nat × List Frame × M
  | [], write_count, mem => (write_count, [], mem)
  | desc :: descs, write_count, mem =>
    if !desc.write_only then (write_count, [], mem)
    else
      let limit := min (write_count + desc.len) frame_buf.length
      let source_slice := (frame_buf.drop write_count).take (limit - write_count)
      match GuestBytes.write mem source_slice desc.addr with
      -- failed to write guest memory slice: `break`
      | .error () => (write_count, [], mem)
      | .ok (sz, mem) =>
        let write_count := write_count + sz
        if write_count ≥ frame_buf.length then (write_count, [source_slice.take sz], mem)
        else
          let rest := write_descs frame_buf descs write_count mem
          (rest.1, source_slice.take sz :: rest.2.1, rest.2.2)

/-- `rx_single_frame`: whether the frame went whole into the next chain, which is used either
way. -/
def rx_single_frame (s : Rx M) : Rx M × Bool :=
  match s.avail with
  | [] => (s, false)
  | desc_chain :: avail =>
    let (write_count, buffers, mem) := write_descs s.frame_buf desc_chain.descs 0 s.mem
    let s := { s with
      avail := avail
      mem := mem
      used := s.used ++ [⟨desc_chain.head_index, write_count, buffers⟩]
      -- Mark that we have at least one pending packet and we need to interrupt the guest.
      deferred_irqs := true }
    -- Current descriptor chain is too small, need a bigger one.
    if write_count < s.frame_buf.length then (s, false)
    else ({ s with delivered := s.delivered ++ [s.frame_buf] }, true)

/-- `consume` on the RX rate limiter at the handler's instant, counting the tokens it takes; a
panic of the limiter stops the handler. -/
def consume (s : Rx M) (tokens : Nat) (t : TokenType) : Rx M × Bool :=
  match s.rate_limiter.consume (UInt64.ofNat tokens) t s.now with
  | none => ({ s with halted := true }, false)
  | some (rate_limiter, ok) =>
    let s := { s with rate_limiter }
    if ok then
      match t with
      | .Ops => ({ s with ops_charged := s.ops_charged + tokens }, true)
      | .Bytes => ({ s with bytes_charged := s.bytes_charged + tokens }, true)
    else (s, false)

/-- `manual_replenish` on the RX rate limiter, counting the tokens it gives back. -/
def manual_replenish (s : Rx M) (tokens : Nat) (t : TokenType) : Rx M :=
  let s := { s with rate_limiter := s.rate_limiter.manual_replenish (UInt64.ofNat tokens) t }
  match t with
  | .Ops => { s with ops_charged := s.ops_charged - tokens }
  | .Bytes => { s with bytes_charged := s.bytes_charged - tokens }

/-- `rate_limited_rx_single_frame`; after a panic of `consume` nothing more of it runs. -/
def rate_limited_rx_single_frame (s : Rx M) : Rx M × Bool :=
  match s.consume 1 .Ops with
  | (s, false) => (s, false)
  | (s, true) =>
    match s.consume s.frame_buf.length .Bytes with
    -- revert the OPS consume()
    | (s, false) => if s.halted then (s, false) else (s.manual_replenish 1 .Ops, false)
    | (s, true) =>
      match s.rx_single_frame with
      | (s, true) => (s, true)
      -- Undo the tokens consumption if guest delivery failed.
      | (s, false) => ((s.manual_replenish 1 .Ops).manual_replenish s.frame_buf.length .Bytes, false)

/-- The interrupt `process_rx` and `resume_rx` send when a used element is pending. -/
def notify_deferred (s : Rx M) : Rx M :=
  if s.deferred_irqs then { s with deferred_irqs := false, irqs := s.irqs + 1 } else s

/-- The loop of `process_rx` over the frames in the tap: read one into `frame_buf`, hand it on,
and stop at the first that is deferred, or when the tap has none (`EAGAIN`). -/
def process_rx_loop : List Frame → Rx M → Rx M
  | [], s => s
  | frame :: frames, s =>
    match rate_limited_rx_single_frame { s with tap := frames, frame_buf := frame } with
    | (s, true) => process_rx_loop frames s
    | (s, false) => if s.halted then s else { s with deferred_frame := true }

def process_rx (s : Rx M) : Rx M :=
  let s := process_rx_loop s.tap s
  if s.halted then s else notify_deferred s

def resume_rx (s : Rx M) : Rx M :=
  if s.deferred_frame then
    match s.rate_limited_rx_single_frame with
    -- process_rx() was interrupted possibly before consuming all packets in the tap
    | (s, true) => process_rx { s with deferred_frame := false }
    | (s, false) => if s.halted then s else notify_deferred s
  else s

end Rx

/-- What happens to the RX half: the driver makes chains available and kicks the queue, frames
arrive at the tap, the rate limiter's timer fires (`timer_fd.read()` gives the expirations), or
time passes. -/
inductive Event
  | rx_queue (chains : List DescriptorChain)
  | rx_tap (frames : List Frame)
  | rx_rate_limiter (expirations : Nat)
  | elapse (ns : Nat)

section Handler

variable {M : Type} [GuestBytes M]

/-- The buffer lies in guest memory. -/
def Desc.InMemory (mem : M) (d : Desc) : Prop :=
  GuestBytes.address_in_range mem d.addr = true ∧ GuestBytes.in_range mem d.addr d.len = true

instance (mem : M) (d : Desc) : Decidable (d.InMemory mem) :=
  inferInstanceAs (Decidable (_ ∧ _))

/-- The RX arms of `process`. -/
def process (s : Rx M) : Event → Rx M
  | .rx_queue chains =>
    let s := { s with avail := s.avail ++ chains }
    if !s.rate_limiter.is_blocked then s.resume_rx else s
  | .rx_tap frames =>
    let s := { s with tap := s.tap ++ frames, arrived := s.arrived ++ frames }
    -- While limiter is blocked, don't process any more incoming.
    if s.rate_limiter.is_blocked then s
    -- the deferred frame first, as `resume_rx` does
    else if s.deferred_frame then s.resume_rx
    else s.process_rx
  | .rx_rate_limiter expirations =>
    match s.rate_limiter.event_handler expirations with
    | .ok rate_limiter => Rx.resume_rx { s with rate_limiter }
    | .error _ => s
  | .elapse ns => { s with now := s.now + ns }

/-- A step of the RX half: a handler that panicked takes no more events. -/
def step (s : Rx M) (e : Event) : Rx M :=
  if s.halted then s else process s e

end Handler

namespace Rx

/-! ## The copy loop -/

section Copy

variable {M : Type} [GuestBytes M]

/-- The room of a chain: the lengths of its buffers. -/
def capacity (desc_chain : DescriptorChain) : Nat :=
  (desc_chain.descs.map Desc.len).sum

/-- Two consecutive slices of a list are one slice. -/
theorem take_drop_append (l : Frame) (m a r : Nat) :
    (l.drop m).take a ++ (l.drop (m + a)).take r = (l.drop m).take (a + r) := by
  rw [List.take_add, List.drop_drop]

/-- A buffer stays in guest memory while the layout stays. -/
theorem in_memory_of_layout {mem mem' : M} {d : Desc} (h : d.InMemory mem)
    (hl : ∀ a, GuestBytes.address_in_range mem' a = GuestBytes.address_in_range mem a) :
    d.InMemory mem' :=
  ⟨(hl d.addr).trans h.1, (GuestBytes.in_range_congr hl d.addr d.len).trans h.2⟩

variable [LawfulGuestBytes M]

/-- Through write-only buffers in guest memory the loop writes the frame from where it starts, as
much of it as the buffers hold, and leaves the layout of guest memory as it was. -/
theorem write_descs_in_memory (frame_buf : Frame) :
    ∀ (descs : List Desc) (write_count : Nat) (mem : M),
      (∀ d ∈ descs, d.write_only = true ∧ d.InMemory mem) → write_count ≤ frame_buf.length →
      (write_descs frame_buf descs write_count mem).1 =
          min (write_count + (descs.map Desc.len).sum) frame_buf.length ∧
        (write_descs frame_buf descs write_count mem).2.1.flatten =
          (frame_buf.drop write_count).take
            ((write_descs frame_buf descs write_count mem).1 - write_count) ∧
        ∀ a, GuestBytes.address_in_range (write_descs frame_buf descs write_count mem).2.2 a =
          GuestBytes.address_in_range mem a
  | [], write_count, mem, _, hle => by
    refine ⟨?_, by simp [write_descs], fun _ => rfl⟩
    rw [write_descs, List.map_nil, List.sum_nil]
    omega
  | desc :: descs, write_count, mem, hdescs, hle => by
    obtain ⟨hwo, hin⟩ := hdescs desc List.mem_cons_self
    -- the slice of this buffer goes to guest memory whole
    have hslice : ((frame_buf.drop write_count).take
        (min (write_count + desc.len) frame_buf.length - write_count)).length =
        min (write_count + desc.len) frame_buf.length - write_count := by
      rw [List.length_take, List.length_drop]
      omega
    obtain ⟨mem', hw, hwrote⟩ := LawfulGuestBytes.write_ok mem ((frame_buf.drop write_count).take
      (min (write_count + desc.len) frame_buf.length - write_count)) desc.addr hin.1
      (GuestBytes.in_range_of_le hin.2 (by omega))
    unfold write_descs
    rw [if_neg (by rw [hwo]; decide)]
    dsimp only
    rw [hw]
    dsimp only
    rw [List.take_length, hslice, List.map_cons, List.sum_cons]
    split
    · refine ⟨by omega, ?_, hwrote.layout⟩
      simp only [List.flatten_cons, List.flatten_nil, List.append_nil]
      congr 1
      omega
    · -- the rest of the frame goes to the rest of the chain, from the end of this slice on
      have hrest : ∀ d ∈ descs, d.write_only = true ∧ d.InMemory mem' := fun d hd =>
        ⟨(hdescs d (List.mem_cons_of_mem _ hd)).1,
          in_memory_of_layout (hdescs d (List.mem_cons_of_mem _ hd)).2 hwrote.layout⟩
      obtain ⟨ih₁, ih₂, ih₃⟩ := write_descs_in_memory frame_buf descs
        (write_count + (min (write_count + desc.len) frame_buf.length - write_count)) mem' hrest
        (by omega)
      refine ⟨by rw [ih₁]; omega, ?_, fun a => (ih₃ a).trans (hwrote.layout a)⟩
      rw [List.flatten_cons, ih₂, take_drop_append]
      congr 1
      omega

end Copy

end Rx

namespace Rx

/-! ## One attempt at a frame -/

section Attempt

variable {M : Type}

/-- What a step of an attempt at the frame in `frame_buf` changes of the frames: the frame joins
`delivered` when it went whole into a chain (`b`), and nothing else moves. -/
structure Delivers (s t : Rx M) (b : Bool) : Prop where
  tap : t.tap = s.tap
  frame_buf : t.frame_buf = s.frame_buf
  arrived : t.arrived = s.arrived
  deferred_frame : t.deferred_frame = s.deferred_frame
  delivered : t.delivered = s.delivered ++ (if b then [s.frame_buf] else [])

theorem Delivers.refl (s : Rx M) : Delivers s s false :=
  ⟨rfl, rfl, rfl, rfl, by simp⟩

/-- A step that delivers nothing, then one that may. -/
theorem Delivers.trans {s t u : Rx M} {b : Bool} (h₁ : Delivers s t false) (h₂ : Delivers t u b) :
    Delivers s u b :=
  ⟨h₂.tap.trans h₁.tap, h₂.frame_buf.trans h₁.frame_buf, h₂.arrived.trans h₁.arrived,
    h₂.deferred_frame.trans h₁.deferred_frame, by
      rw [h₂.delivered, h₁.delivered, h₁.frame_buf]
      simp⟩

/-- `consume` of operations moves no frame; when it succeeds it counts them, and only a panic
stops the handler. -/
theorem consume_ops_spec (s : Rx M) (n : Nat) :
    Delivers s (s.consume n .Ops).1 false ∧
    (s.consume n .Ops).1.ops_charged = s.ops_charged + (if (s.consume n .Ops).2 then n else 0) ∧
    (s.consume n .Ops).1.bytes_charged = s.bytes_charged ∧
    ((s.consume n .Ops).1.halted = false → (s.consume n .Ops).1.halted = s.halted) := by
  unfold consume
  cases s.rate_limiter.consume (UInt64.ofNat n) .Ops s.now with
  | none => exact ⟨⟨rfl, rfl, rfl, rfl, by simp⟩, by simp, rfl, nofun⟩
  | some p =>
    obtain ⟨r, _ | _⟩ := p
    all_goals exact ⟨⟨rfl, rfl, rfl, rfl, by simp⟩, by simp, rfl, fun _ => rfl⟩

/-- `consume` of bytes moves no frame; when it succeeds it counts them, and only a panic stops the
handler. -/
theorem consume_bytes_spec (s : Rx M) (n : Nat) :
    Delivers s (s.consume n .Bytes).1 false ∧
    (s.consume n .Bytes).1.ops_charged = s.ops_charged ∧
    (s.consume n .Bytes).1.bytes_charged =
      s.bytes_charged + (if (s.consume n .Bytes).2 then n else 0) ∧
    ((s.consume n .Bytes).1.halted = false → (s.consume n .Bytes).1.halted = s.halted) := by
  unfold consume
  cases s.rate_limiter.consume (UInt64.ofNat n) .Bytes s.now with
  | none => exact ⟨⟨rfl, rfl, rfl, rfl, by simp⟩, rfl, by simp, nofun⟩
  | some p =>
    obtain ⟨r, _ | _⟩ := p
    all_goals exact ⟨⟨rfl, rfl, rfl, rfl, by simp⟩, rfl, by simp, fun _ => rfl⟩

/-- A `consume` that succeeds did not panic. -/
theorem consume_halted {s t : Rx M} {n : Nat} {tt : TokenType} (h : s.consume n tt = (t, true)) :
    t.halted = s.halted := by
  unfold consume at h
  cases hc : s.rate_limiter.consume (UInt64.ofNat n) tt s.now with
  | none =>
    rw [hc] at h
    cases h
  | some p =>
    obtain ⟨r, ok⟩ := p
    rw [hc] at h
    dsimp only at h
    split at h
    · cases tt <;> (cases h; rfl)
    · cases h

theorem manual_replenish_ops_spec (s : Rx M) (n : Nat) :
    Delivers s (s.manual_replenish n .Ops) false ∧
    (s.manual_replenish n .Ops).ops_charged = s.ops_charged - n ∧
    (s.manual_replenish n .Ops).bytes_charged = s.bytes_charged ∧
    (s.manual_replenish n .Ops).halted = s.halted :=
  ⟨⟨rfl, rfl, rfl, rfl, by simp [manual_replenish]⟩, rfl, rfl, rfl⟩

theorem manual_replenish_bytes_spec (s : Rx M) (n : Nat) :
    Delivers s (s.manual_replenish n .Bytes) false ∧
    (s.manual_replenish n .Bytes).ops_charged = s.ops_charged ∧
    (s.manual_replenish n .Bytes).bytes_charged = s.bytes_charged - n ∧
    (s.manual_replenish n .Bytes).halted = s.halted :=
  ⟨⟨rfl, rfl, rfl, rfl, by simp [manual_replenish]⟩, rfl, rfl, rfl⟩

variable [GuestBytes M]

/-- `rx_single_frame` delivers the frame whole or not at all, and leaves the limiter, the tokens
and the handler's state of running alone. -/
theorem rx_single_frame_spec (s : Rx M) :
    Delivers s s.rx_single_frame.1 s.rx_single_frame.2 ∧
    s.rx_single_frame.1.ops_charged = s.ops_charged ∧
    s.rx_single_frame.1.bytes_charged = s.bytes_charged ∧
    s.rx_single_frame.1.halted = s.halted ∧
    s.rx_single_frame.1.rate_limiter = s.rate_limiter := by
  unfold rx_single_frame
  split
  · exact ⟨Delivers.refl s, rfl, rfl, rfl, rfl⟩
  · dsimp only
    split
    · exact ⟨⟨rfl, rfl, rfl, rfl, by simp⟩, rfl, rfl, rfl, rfl⟩
    · exact ⟨⟨rfl, rfl, rfl, rfl, by simp⟩, rfl, rfl, rfl, rfl⟩

section RateLimited

variable {s s₁ s₂ s₃ : Rx M}

/-! The ways `rate_limited_rx_single_frame` ends. -/

theorem rate_limited_of_no_ops (h₁ : s.consume 1 .Ops = (s₁, false)) :
    s.rate_limited_rx_single_frame = (s₁, false) := by
  rw [rate_limited_rx_single_frame, h₁]

theorem rate_limited_of_no_bandwidth (h₁ : s.consume 1 .Ops = (s₁, true))
    (h₂ : s₁.consume s₁.frame_buf.length .Bytes = (s₂, false)) :
    s.rate_limited_rx_single_frame =
      if s₂.halted then (s₂, false) else (s₂.manual_replenish 1 .Ops, false) := by
  rw [rate_limited_rx_single_frame, h₁]
  dsimp only
  rw [h₂]

theorem rate_limited_of_delivered (h₁ : s.consume 1 .Ops = (s₁, true))
    (h₂ : s₁.consume s₁.frame_buf.length .Bytes = (s₂, true))
    (h₃ : s₂.rx_single_frame = (s₃, true)) : s.rate_limited_rx_single_frame = (s₃, true) := by
  rw [rate_limited_rx_single_frame, h₁]
  dsimp only
  rw [h₂]
  dsimp only
  rw [h₃]

theorem rate_limited_of_too_small (h₁ : s.consume 1 .Ops = (s₁, true))
    (h₂ : s₁.consume s₁.frame_buf.length .Bytes = (s₂, true))
    (h₃ : s₂.rx_single_frame = (s₃, false)) :
    s.rate_limited_rx_single_frame =
      ((s₃.manual_replenish 1 .Ops).manual_replenish s₃.frame_buf.length .Bytes, false) := by
  rw [rate_limited_rx_single_frame, h₁]
  dsimp only
  rw [h₂]
  dsimp only
  rw [h₃]

end RateLimited

/-- An attempt keeps one operation and the frame's bytes exactly when the frame went whole into a
chain: a failed attempt gives back what it took, unless the limiter panicked on the way. -/
theorem rate_limited_rx_single_frame_spec (s : Rx M) :
    Delivers s s.rate_limited_rx_single_frame.1 s.rate_limited_rx_single_frame.2 ∧
    (s.rate_limited_rx_single_frame.1.halted = false →
      s.rate_limited_rx_single_frame.1.ops_charged =
        s.ops_charged + (if s.rate_limited_rx_single_frame.2 then 1 else 0) ∧
      s.rate_limited_rx_single_frame.1.bytes_charged =
        s.bytes_charged + (if s.rate_limited_rx_single_frame.2 then s.frame_buf.length else 0) ∧
      s.rate_limited_rx_single_frame.1.halted = s.halted) := by
  obtain ⟨hd₁, ho₁, hb₁, hh₁⟩ := consume_ops_spec s 1
  rcases h₁ : s.consume 1 .Ops with ⟨s₁, _ | _⟩
  all_goals rw [h₁] at hd₁ ho₁ hb₁ hh₁; dsimp only at hd₁ ho₁ hb₁ hh₁
  · -- no operation to take
    rw [rate_limited_of_no_ops h₁]
    exact ⟨hd₁, fun hs => ⟨by simpa using ho₁, by simpa using hb₁, hh₁ hs⟩⟩
  have hs₁ := consume_halted h₁
  obtain ⟨hd₂, ho₂, hb₂, hh₂⟩ := consume_bytes_spec s₁ s₁.frame_buf.length
  have hlen₁ : s₁.frame_buf.length = s.frame_buf.length := by rw [hd₁.frame_buf]
  rcases h₂ : s₁.consume s₁.frame_buf.length .Bytes with ⟨s₂, _ | _⟩
  all_goals rw [h₂] at hd₂ ho₂ hb₂ hh₂; dsimp only at hd₂ ho₂ hb₂ hh₂
  · -- no bandwidth: the operation is given back, unless the limiter panicked
    rw [rate_limited_of_no_bandwidth h₁ h₂]
    split
    · next hp => exact ⟨hd₁.trans hd₂, fun hs => absurd (hp.symm.trans hs) Bool.noConfusion⟩
    · next hp =>
      obtain ⟨hd₃, ho₃, hb₃, hh₃⟩ := manual_replenish_ops_spec s₂ 1
      refine ⟨hd₁.trans (hd₂.trans hd₃), fun _ => ⟨?_, ?_, ?_⟩⟩
      all_goals simp only [↓reduceIte, Bool.false_eq_true, Nat.add_zero] at ho₁ hb₂ ⊢
      · omega
      · omega
      · rw [hh₃, hh₂ (by simpa using hp), hs₁]
  have hs₂ := consume_halted h₂
  obtain ⟨hd₃, ho₃, hb₃, hh₃, -⟩ := rx_single_frame_spec s₂
  rcases h₃ : s₂.rx_single_frame with ⟨s₃, _ | _⟩
  all_goals rw [h₃] at hd₃ ho₃ hb₃ hh₃; dsimp only at hd₃ ho₃ hb₃ hh₃
  · -- the chain was too small: both are given back
    rw [rate_limited_of_too_small h₁ h₂ h₃]
    obtain ⟨hd₄, ho₄, hb₄, hh₄⟩ := manual_replenish_ops_spec s₃ 1
    obtain ⟨hd₅, ho₅, hb₅, hh₅⟩ := manual_replenish_bytes_spec (s₃.manual_replenish 1 .Ops)
      s₃.frame_buf.length
    have hlen₃ : s₃.frame_buf.length = s.frame_buf.length := by
      rw [hd₃.frame_buf, hd₂.frame_buf, hd₁.frame_buf]
    refine ⟨hd₁.trans (hd₂.trans (hd₃.trans (hd₄.trans hd₅))), fun _ => ⟨?_, ?_, ?_⟩⟩
    all_goals simp only [↓reduceIte, Bool.false_eq_true, Nat.add_zero] at ho₁ hb₂ ⊢
    · omega
    · omega
    · rw [hh₅, hh₄, hh₃, hs₂, hs₁]
  · -- delivered: the tokens stay taken
    rw [rate_limited_of_delivered h₁ h₂ h₃]
    refine ⟨hd₁.trans (hd₂.trans hd₃), fun _ => ⟨?_, ?_, ?_⟩⟩
    all_goals simp only [↓reduceIte] at ho₁ hb₂ ⊢
    · omega
    · omega
    · rw [hh₃, hs₂, hs₁]

/-- A frame delivered whole: no `consume` on the way panicked. -/
theorem rate_limited_halted_of_delivered {s t : Rx M}
    (h : s.rate_limited_rx_single_frame = (t, true)) : t.halted = s.halted := by
  unfold rate_limited_rx_single_frame at h
  rcases h₁ : s.consume 1 .Ops with ⟨s₁, _ | _⟩
  all_goals rw [h₁] at h; dsimp only at h
  · cases h
  rcases h₂ : s₁.consume s₁.frame_buf.length .Bytes with ⟨s₂, _ | _⟩
  all_goals rw [h₂] at h; dsimp only at h
  · split at h <;> cases h
  rcases h₃ : s₂.rx_single_frame with ⟨s₃, _ | _⟩
  all_goals rw [h₃] at h; dsimp only at h
  · cases h
  · cases h
    rw [show t.halted = s₂.halted by simpa [h₃] using (rx_single_frame_spec s₂).2.2.2.1,
      consume_halted h₂, consume_halted h₁]

end Attempt

/-! ## Every frame accounted for -/

section Accounting

variable {M : Type}

/-- The frames delivered whole, then `pending`, then those in the tap, are the frames that
arrived, and the limiter holds one operation and the frame's bytes for each frame delivered
whole. -/
structure Accounted (s : Rx M) (pending : List Frame) : Prop where
  frames : s.delivered ++ pending ++ s.tap = s.arrived
  ops : s.ops_charged = s.delivered.length
  bytes : s.bytes_charged = (s.delivered.map List.length).sum

/-- The invariant of the RX half while the handler runs: the frame held back is the one
pending. -/
def Inv (s : Rx M) : Prop :=
  s.halted = false → Accounted s (if s.deferred_frame then [s.frame_buf] else [])

theorem inv_of_halted {s : Rx M} (h : s.halted = true) : Inv s := by
  intro hs
  rw [h] at hs
  cases hs

theorem inv_iff_of_deferred {s : Rx M} (hd : s.deferred_frame = true) :
    Inv s ↔ (s.halted = false → Accounted s [s.frame_buf]) := by
  rw [Inv, hd, if_pos rfl]

theorem inv_iff_of_not_deferred {s : Rx M} (hd : s.deferred_frame = false) :
    Inv s ↔ (s.halted = false → Accounted s []) := by
  rw [Inv, hd]
  rfl

theorem Inv.init (mem : M) (rate_limiter : RateLimiter) : Inv (init mem rate_limiter) :=
  fun _ => ⟨rfl, rfl, rfl⟩

theorem Inv.notify_deferred {s : Rx M} (h : Inv s) : Inv s.notify_deferred := by
  unfold Rx.notify_deferred
  split
  · intro hs
    have ha := h hs
    exact ⟨ha.frames, ha.ops, ha.bytes⟩
  · exact h

variable [GuestBytes M]

/-- An attempt at the pending frame: delivered, it leaves nothing pending; deferred, it stays. -/
theorem Accounted.attempt {s : Rx M} (h : Accounted s [s.frame_buf])
    (hs : s.rate_limited_rx_single_frame.1.halted = false) :
    Accounted s.rate_limited_rx_single_frame.1
      (if s.rate_limited_rx_single_frame.2 then [] else [s.frame_buf]) := by
  obtain ⟨hd, hcount⟩ := rate_limited_rx_single_frame_spec s
  obtain ⟨ho, hb, -⟩ := hcount hs
  rcases hr : s.rate_limited_rx_single_frame with ⟨t, _ | _⟩
  all_goals rw [hr] at hd ho hb; dsimp only at hd ho hb ⊢
  all_goals simp only [↓reduceIte, Bool.false_eq_true, Nat.add_zero] at hd ho hb ⊢
  -- deferred, what was pending still is; delivered, the frame moved from pending to delivered,
  -- and in both cases each field follows from the spec's account of the attempt
  all_goals
    refine ⟨?_, ?_, ?_⟩
    · rw [hd.delivered, hd.tap, hd.arrived, ← h.frames]
      simp
    · rw [ho, h.ops, hd.delivered]
      simp
    · rw [hb, h.bytes, hd.delivered]
      simp

/-- The loop of `process_rx`, by induction on the frames in the tap: each read makes the next
frame the pending one, and the loop stops with it pending, goes on with nothing pending, or ends
with the handler. -/
theorem Accounted.process_rx_loop :
    ∀ (l : List Frame) (s : Rx M), s.tap = l → s.deferred_frame = false → s.halted = false →
      Accounted s [] → Inv (Rx.process_rx_loop l s)
  | [], s, _, hd, _, h => by
    rw [Rx.process_rx_loop, inv_iff_of_not_deferred hd]
    exact fun _ => h
  | frame :: frames, s, ht, hd, hs, h => by
    have hp : Accounted { s with tap := frames, frame_buf := frame } [frame] := by
      refine ⟨?_, h.ops, h.bytes⟩
      rw [← h.frames, ht]
      simp
    have ha := hp.attempt
    obtain ⟨hdl, -⟩ := rate_limited_rx_single_frame_spec { s with tap := frames, frame_buf := frame }
    rcases hr : Rx.rate_limited_rx_single_frame { s with tap := frames, frame_buf := frame } with
      ⟨t, _ | _⟩
    all_goals rw [hr] at ha hdl; dsimp only at ha hdl
    · -- deferred: the loop stops with the frame held back
      rw [Rx.process_rx_loop, hr]
      dsimp only
      split
      · next hh => exact inv_of_halted hh
      · next hh =>
        rw [inv_iff_of_deferred rfl]
        intro _
        have hf : t.frame_buf = frame := hdl.frame_buf
        have ha' := ha (by simpa using hh)
        exact ⟨by rw [hf]; exact ha'.frames, ha'.ops, ha'.bytes⟩
    · have ht : t.halted = false := (rate_limited_halted_of_delivered hr).trans hs
      rw [Rx.process_rx_loop, hr]
      dsimp only
      exact Accounted.process_rx_loop frames t hdl.tap (hdl.deferred_frame.trans hd) ht (ha ht)

theorem Inv.process_rx {s : Rx M} (h : Inv s) (hd : s.deferred_frame = false)
    (hs : s.halted = false) : Inv s.process_rx := by
  have hl := Accounted.process_rx_loop s.tap s rfl hd hs ((inv_iff_of_not_deferred hd).mp h hs)
  unfold Rx.process_rx
  dsimp only
  split
  · exact hl
  · exact hl.notify_deferred

theorem Inv.resume_rx {s : Rx M} (h : Inv s) (hs : s.halted = false) : Inv s.resume_rx := by
  unfold Rx.resume_rx
  split
  · next hd =>
    have ha := ((inv_iff_of_deferred hd).mp h hs).attempt
    obtain ⟨hdl, -⟩ := rate_limited_rx_single_frame_spec s
    rcases hr : s.rate_limited_rx_single_frame with ⟨t, _ | _⟩
    all_goals rw [hr] at ha hdl; dsimp only at ha hdl ⊢
    · -- deferred again: the frame stays held back
      split
      · next hh => exact inv_of_halted hh
      · next hh =>
        refine Inv.notify_deferred ((inv_iff_of_deferred (hdl.deferred_frame.trans hd)).mpr
          fun _ => ?_)
        rw [hdl.frame_buf]
        exact ha (by simpa using hh)
    · have ht : t.halted = false := (rate_limited_halted_of_delivered hr).trans hs
      have ha' := ha ht
      exact Inv.process_rx (fun _ => ⟨ha'.frames, ha'.ops, ha'.bytes⟩) rfl ht
  · exact h

end Accounting

end Rx

section Runs

variable {M : Type} [GuestBytes M]

/-- Every event keeps the invariant. -/
theorem Rx.Inv.step {s : Rx M} (h : Rx.Inv s) (e : Event) : Rx.Inv (Net.step s e) := by
  unfold Net.step
  split
  · exact h
  · next hs =>
    rw [Bool.not_eq_true] at hs
    cases e with
    | rx_queue chains =>
      have h' : Rx.Inv { s with avail := s.avail ++ chains } := fun hs' =>
        have ha := h hs'
        ⟨ha.frames, ha.ops, ha.bytes⟩
      dsimp only [process]
      split
      · exact h'.resume_rx hs
      · exact h'
    | rx_tap frames =>
      -- the new frames join the tap and the frames that arrived alike
      have h' : Rx.Inv { s with tap := s.tap ++ frames, arrived := s.arrived ++ frames } :=
        fun hs' => by
          have ha := h hs'
          refine ⟨?_, ha.ops, ha.bytes⟩
          rw [← ha.frames]
          simp
      dsimp only [process]
      split
      · exact h'
      · split
        · exact h'.resume_rx hs
        · next hd =>
          rw [Bool.not_eq_true] at hd
          exact h'.process_rx hd hs
    | rx_rate_limiter expirations =>
      dsimp only [process]
      split
      · exact Rx.Inv.resume_rx (fun hs' => have ha := h hs'; ⟨ha.frames, ha.ops, ha.bytes⟩) hs
      · exact h
    | elapse ns => exact fun hs' => have ha := h hs'; ⟨ha.frames, ha.ops, ha.bytes⟩

theorem Rx.Inv.run {s : Rx M} (h : Rx.Inv s) (es : List Event) :
    Rx.Inv (Transition.run Net.step s es) :=
  Transition.run_invariant (fun e _ _ hs => hs.step e) h

end Runs

/-! ## A limiter whose buckets refill -/

namespace Rx

section Refills

variable {M : Type} {s : Rx M}

/-- The handler runs, and its limiter's buckets refill, so no `consume` panics. -/
def Runs (s : Rx M) : Prop := s.halted = false ∧ s.rate_limiter.Refills

theorem Runs.consume (h : s.Runs) (n : Nat) (t : TokenType) : (s.consume n t).1.Runs := by
  obtain ⟨r', ok, hc, hr'⟩ := h.2.consume (UInt64.ofNat n) t s.now
  unfold Rx.consume
  rw [hc]
  dsimp only
  split
  · cases t <;> exact ⟨h.1, hr'⟩
  · exact ⟨h.1, hr'⟩

theorem Runs.manual_replenish (h : s.Runs) (n : Nat) (t : TokenType) :
    (s.manual_replenish n t).Runs := by
  unfold Rx.manual_replenish
  cases t <;> exact ⟨h.1, h.2.manual_replenish _ _⟩

theorem Runs.notify_deferred (h : s.Runs) : s.notify_deferred.Runs := by
  unfold Rx.notify_deferred
  split
  · exact ⟨h.1, h.2⟩
  · exact h

variable [GuestBytes M]

theorem Runs.rx_single_frame (h : s.Runs) : s.rx_single_frame.1.Runs := by
  obtain ⟨-, -, -, hh, hr⟩ := rx_single_frame_spec s
  exact ⟨hh.trans h.1, hr ▸ h.2⟩

theorem Runs.rate_limited_rx_single_frame (h : s.Runs) : s.rate_limited_rx_single_frame.1.Runs := by
  have h₁ := h.consume 1 .Ops
  rcases hc₁ : s.consume 1 .Ops with ⟨s₁, _ | _⟩
  all_goals rw [hc₁] at h₁
  · rw [rate_limited_of_no_ops hc₁]
    exact h₁
  have h₂ := h₁.consume s₁.frame_buf.length .Bytes
  rcases hc₂ : s₁.consume s₁.frame_buf.length .Bytes with ⟨s₂, _ | _⟩
  all_goals rw [hc₂] at h₂
  · -- no bandwidth: no panic, so the operation is given back
    rw [rate_limited_of_no_bandwidth hc₁ hc₂, if_neg (by rw [h₂.1]; decide)]
    exact h₂.manual_replenish 1 .Ops
  have h₃ := h₂.rx_single_frame
  rcases hc₃ : s₂.rx_single_frame with ⟨s₃, _ | _⟩
  all_goals rw [hc₃] at h₃
  · rw [rate_limited_of_too_small hc₁ hc₂ hc₃]
    exact (h₃.manual_replenish 1 .Ops).manual_replenish _ _
  · rw [rate_limited_of_delivered hc₁ hc₂ hc₃]
    exact h₃

/-- The loop of `process_rx`, by induction on the frames in the tap. -/
theorem Runs.process_rx_loop : ∀ (l : List Frame) {s : Rx M}, s.Runs → (Rx.process_rx_loop l s).Runs
  | [], _, h => h
  | frame :: frames, s, h => by
    have ha := Runs.rate_limited_rx_single_frame (s := { s with tap := frames, frame_buf := frame }) h
    rcases hr : Rx.rate_limited_rx_single_frame { s with tap := frames, frame_buf := frame } with
      ⟨t, _ | _⟩
    all_goals rw [hr] at ha
    · simp only [Rx.process_rx_loop, hr, if_neg (show ¬ t.halted = true by rw [ha.1]; decide)]
      exact ⟨ha.1, ha.2⟩
    · simp only [Rx.process_rx_loop, hr]
      exact Runs.process_rx_loop frames ha

theorem Runs.process_rx (h : s.Runs) : s.process_rx.Runs := by
  have hl := Runs.process_rx_loop s.tap h
  unfold Rx.process_rx
  dsimp only
  rw [if_neg (by rw [hl.1]; decide)]
  exact hl.notify_deferred

theorem Runs.resume_rx (h : s.Runs) : s.resume_rx.Runs := by
  unfold Rx.resume_rx
  split
  · have ha := h.rate_limited_rx_single_frame
    rcases hr : s.rate_limited_rx_single_frame with ⟨t, _ | _⟩
    all_goals rw [hr] at ha
    · dsimp only
      rw [if_neg (by rw [ha.1]; decide)]
      exact ha.notify_deferred
    · exact Runs.process_rx (s := { t with deferred_frame := false }) ⟨ha.1, ha.2⟩
  · exact h

end Refills

end Rx

section Refills

variable {M : Type} [GuestBytes M]

/-- No event stops a handler whose limiter's buckets refill. -/
theorem Rx.Runs.step {s : Rx M} (h : s.Runs) (e : Event) : (Net.step s e).Runs := by
  unfold Net.step
  rw [if_neg (by rw [h.1]; decide)]
  cases e with
  | rx_queue chains =>
    dsimp only [process]
    split
    · exact Rx.Runs.resume_rx (s := { s with avail := s.avail ++ chains }) ⟨h.1, h.2⟩
    · exact ⟨h.1, h.2⟩
  | rx_tap frames =>
    have h' : Rx.Runs { s with tap := s.tap ++ frames, arrived := s.arrived ++ frames } :=
      ⟨h.1, h.2⟩
    dsimp only [process]
    split
    · exact h'
    · split
      · exact h'.resume_rx
      · exact h'.process_rx
  | rx_rate_limiter expirations =>
    dsimp only [process]
    split
    · next rate_limiter he =>
      exact Rx.Runs.resume_rx (s := { s with rate_limiter }) ⟨h.1, h.2.event_handler he⟩
    · exact h
  | elapse ns => exact ⟨h.1, h.2⟩

/-- A handler whose limiter's buckets refill runs for ever, whatever happens to it. -/
theorem run_not_halted (mem : M) {rate_limiter : RateLimiter} (hr : rate_limiter.Refills)
    (es : List Event) : (Transition.run step (Rx.init mem rate_limiter) es).halted = false :=
  have hrun : (Transition.run step (Rx.init mem rate_limiter) es).Runs :=
    Transition.run_invariant (I := Rx.Runs) (fun e _ _ hs => Rx.Runs.step hs e) ⟨rfl, hr⟩
  hrun.1

end Refills

/-! ## A chain too small for the frame -/

namespace Rx

section Chain

variable {M : Type} [GuestBytes M] [LawfulGuestBytes M] {s : Rx M} {c : DescriptorChain}
  {avail : List DescriptorChain}

/-- Through a chain of write-only buffers in guest memory, `write_descs` writes
`min (capacity c) len` bytes, the frame's first ones, and keeps the layout of guest memory. -/
theorem write_descs_chain (hc : ∀ d ∈ c.descs, d.write_only = true ∧ d.InMemory s.mem) :
    (write_descs s.frame_buf c.descs 0 s.mem).1 = min (capacity c) s.frame_buf.length ∧
      (write_descs s.frame_buf c.descs 0 s.mem).2.1.flatten =
        s.frame_buf.take (min (capacity c) s.frame_buf.length) ∧
      ∀ a, GuestBytes.address_in_range (write_descs s.frame_buf c.descs 0 s.mem).2.2 a =
        GuestBytes.address_in_range s.mem a := by
  obtain ⟨hw, hflat, hlay⟩ := write_descs_in_memory s.frame_buf c.descs 0 s.mem hc (Nat.zero_le _)
  rw [Nat.zero_add] at hw
  rw [hflat, hw, List.drop_zero, Nat.sub_zero]
  exact ⟨rfl, rfl, hlay⟩

/-- A chain of write-only buffers in guest memory too small for the frame is used with the bytes
that fit, and the frame is not delivered. -/
theorem rx_single_frame_partial (h : s.avail = c :: avail)
    (hc : ∀ d ∈ c.descs, d.write_only = true ∧ d.InMemory s.mem)
    (hlt : capacity c < s.frame_buf.length) :
    ∃ (buffers : List Frame) (mem : M), buffers.flatten = s.frame_buf.take (capacity c) ∧
      (∀ a, GuestBytes.address_in_range mem a = GuestBytes.address_in_range s.mem a) ∧
      s.rx_single_frame =
        ({ s with
            avail := avail
            mem := mem
            used := s.used ++ [⟨c.head_index, capacity c, buffers⟩]
            deferred_irqs := true }, false) := by
  obtain ⟨hw, hflat, hlay⟩ := write_descs_chain (s := s) hc
  rw [Nat.min_eq_left (Nat.le_of_lt hlt)] at hw hflat
  rcases hwd : write_descs s.frame_buf c.descs 0 s.mem with ⟨write_count, buffers, mem⟩
  rw [hwd] at hw hflat hlay
  dsimp only at hw hflat hlay
  refine ⟨buffers, mem, hflat, hlay, ?_⟩
  rw [rx_single_frame, h]
  dsimp only
  rw [hwd]
  dsimp only
  rw [hw, if_pos hlt]

/-- A chain of write-only buffers in guest memory large enough takes the frame whole. -/
theorem rx_single_frame_whole (h : s.avail = c :: avail)
    (hc : ∀ d ∈ c.descs, d.write_only = true ∧ d.InMemory s.mem)
    (hle : s.frame_buf.length ≤ capacity c) :
    ∃ (buffers : List Frame) (mem : M), buffers.flatten = s.frame_buf ∧
      s.rx_single_frame =
        ({ s with
            avail := avail
            mem := mem
            used := s.used ++ [⟨c.head_index, s.frame_buf.length, buffers⟩]
            deferred_irqs := true
            delivered := s.delivered ++ [s.frame_buf] }, true) := by
  obtain ⟨hw, hflat, -⟩ := write_descs_chain (s := s) hc
  rw [Nat.min_eq_right hle] at hw hflat
  rw [List.take_length] at hflat
  rcases hwd : write_descs s.frame_buf c.descs 0 s.mem with ⟨write_count, buffers, mem⟩
  rw [hwd] at hw hflat
  dsimp only at hw hflat
  refine ⟨buffers, mem, hflat, ?_⟩
  rw [rx_single_frame, h]
  dsimp only
  rw [hwd]
  dsimp only
  rw [hw, if_neg (Nat.lt_irrefl _)]

end Chain

/-! ## Without a limiter -/

section Default

variable {M : Type} {s : Rx M}

theorem consume_ops_of_default (h : s.rate_limiter = .default) (n : Nat) :
    s.consume n .Ops =
      ({ s with rate_limiter := .default, ops_charged := s.ops_charged + n }, true) := by
  rw [consume, h, RateLimiter.consume_default]
  rfl

theorem consume_bytes_of_default (h : s.rate_limiter = .default) (n : Nat) :
    s.consume n .Bytes =
      ({ s with rate_limiter := .default, bytes_charged := s.bytes_charged + n }, true) := by
  rw [consume, h, RateLimiter.consume_default]
  rfl

theorem manual_replenish_ops_of_default (h : s.rate_limiter = .default) (n : Nat) :
    s.manual_replenish n .Ops =
      { s with rate_limiter := .default, ops_charged := s.ops_charged - n } := by
  rw [manual_replenish, h, RateLimiter.manual_replenish_default]

theorem manual_replenish_bytes_of_default (h : s.rate_limiter = .default) (n : Nat) :
    s.manual_replenish n .Bytes =
      { s with rate_limiter := .default, bytes_charged := s.bytes_charged - n } := by
  rw [manual_replenish, h, RateLimiter.manual_replenish_default]

variable [GuestBytes M] [LawfulGuestBytes M] {c : DescriptorChain} {avail : List DescriptorChain}

/-- Without a limiter, an attempt on a chain too small for the frame uses the chain with the
bytes that fit and gives both tokens back. -/
theorem rate_limited_of_default_too_small (h : s.rate_limiter = .default)
    (ha : s.avail = c :: avail) (hc : ∀ d ∈ c.descs, d.write_only = true ∧ d.InMemory s.mem)
    (hlt : capacity c < s.frame_buf.length) :
    ∃ (buffers : List Frame) (mem : M), buffers.flatten = s.frame_buf.take (capacity c) ∧
      (∀ a, GuestBytes.address_in_range mem a = GuestBytes.address_in_range s.mem a) ∧
      s.rate_limited_rx_single_frame =
        ({ s with
            avail := avail
            mem := mem
            used := s.used ++ [⟨c.head_index, capacity c, buffers⟩]
            deferred_irqs := true }, false) := by
  have h₁ := consume_ops_of_default h 1
  have h₂ := consume_bytes_of_default
    (s := { s with rate_limiter := .default, ops_charged := s.ops_charged + 1 }) rfl
    s.frame_buf.length
  obtain ⟨buffers, mem, hflat, hlay, h₃⟩ := rx_single_frame_partial
    (s := { s with
      rate_limiter := .default
      ops_charged := s.ops_charged + 1
      bytes_charged := s.bytes_charged + s.frame_buf.length }) ha hc hlt
  refine ⟨buffers, mem, hflat, hlay, ?_⟩
  rw [rate_limited_of_too_small h₁ h₂ h₃, manual_replenish_ops_of_default rfl,
    manual_replenish_bytes_of_default rfl]
  simp only [Nat.add_sub_cancel, ← h]

/-- Without a limiter, an attempt on a chain large enough delivers the frame and keeps both
tokens. -/
theorem rate_limited_of_default_whole (h : s.rate_limiter = .default)
    (ha : s.avail = c :: avail) (hc : ∀ d ∈ c.descs, d.write_only = true ∧ d.InMemory s.mem)
    (hle : s.frame_buf.length ≤ capacity c) :
    ∃ (buffers : List Frame) (mem : M), buffers.flatten = s.frame_buf ∧
      s.rate_limited_rx_single_frame =
        ({ s with
            avail := avail
            mem := mem
            used := s.used ++ [⟨c.head_index, s.frame_buf.length, buffers⟩]
            deferred_irqs := true
            delivered := s.delivered ++ [s.frame_buf]
            ops_charged := s.ops_charged + 1
            bytes_charged := s.bytes_charged + s.frame_buf.length }, true) := by
  have h₁ := consume_ops_of_default h 1
  have h₂ := consume_bytes_of_default
    (s := { s with rate_limiter := .default, ops_charged := s.ops_charged + 1 }) rfl
    s.frame_buf.length
  obtain ⟨buffers, mem, hflat, h₃⟩ := rx_single_frame_whole
    (s := { s with
      rate_limiter := .default
      ops_charged := s.ops_charged + 1
      bytes_charged := s.bytes_charged + s.frame_buf.length }) ha hc hle
  refine ⟨buffers, mem, hflat, ?_⟩
  rw [rate_limited_of_delivered h₁ h₂ h₃]
  simp only [← h]

/-- Without a limiter, a deferred frame tried on a chain too small for it: the chain is used
with the bytes that fit, the guest is interrupted, and the frame stays deferred. -/
theorem resume_rx_too_small (hd : s.deferred_frame = true) (hs : s.halted = false)
    (h : s.rate_limiter = .default) (ha : s.avail = c :: avail)
    (hc : ∀ d ∈ c.descs, d.write_only = true ∧ d.InMemory s.mem)
    (hlt : capacity c < s.frame_buf.length) :
    ∃ (buffers : List Frame) (mem : M), buffers.flatten = s.frame_buf.take (capacity c) ∧
      (∀ a, GuestBytes.address_in_range mem a = GuestBytes.address_in_range s.mem a) ∧
      s.resume_rx =
        { s with
          avail := avail
          mem := mem
          used := s.used ++ [⟨c.head_index, capacity c, buffers⟩]
          deferred_irqs := false
          irqs := s.irqs + 1 } := by
  obtain ⟨buffers, mem, hflat, hlay, h₁⟩ := rate_limited_of_default_too_small h ha hc hlt
  refine ⟨buffers, mem, hflat, hlay, ?_⟩
  rw [resume_rx, if_pos hd, h₁]
  dsimp only
  rw [hs]
  rfl

/-- Without a limiter, a deferred frame tried on a chain large enough, with the tap empty: the
frame is delivered and the guest interrupted. -/
theorem resume_rx_whole (hd : s.deferred_frame = true) (hs : s.halted = false)
    (h : s.rate_limiter = .default) (ht : s.tap = []) (ha : s.avail = c :: avail)
    (hc : ∀ d ∈ c.descs, d.write_only = true ∧ d.InMemory s.mem)
    (hle : s.frame_buf.length ≤ capacity c) :
    ∃ (buffers : List Frame) (mem : M), buffers.flatten = s.frame_buf ∧
      s.resume_rx =
        { s with
          deferred_frame := false
          avail := avail
          mem := mem
          used := s.used ++ [⟨c.head_index, s.frame_buf.length, buffers⟩]
          deferred_irqs := false
          irqs := s.irqs + 1
          delivered := s.delivered ++ [s.frame_buf]
          ops_charged := s.ops_charged + 1
          bytes_charged := s.bytes_charged + s.frame_buf.length } := by
  obtain ⟨buffers, mem, hflat, h₁⟩ := rate_limited_of_default_whole h ha hc hle
  refine ⟨buffers, mem, hflat, ?_⟩
  rw [resume_rx, if_pos hd, h₁]
  -- `process_rx` finds the tap empty
  dsimp only
  rw [process_rx]
  dsimp only
  rw [ht, hs]
  rfl

end Default

end Rx

/-! ## A frame delivered in part, then whole -/

section Redelivered

variable {M : Type} [GuestBytes M] {s : Rx M} {c : DescriptorChain}

theorem step_rx_queue_of_unblocked (hs : s.halted = false)
    (hb : s.rate_limiter.is_blocked = false) (chains : List DescriptorChain) :
    step s (.rx_queue chains) = Rx.resume_rx { s with avail := s.avail ++ chains } := by
  rw [step, if_neg (by rw [hs]; decide)]
  dsimp only [process]
  rw [hb]
  rfl

variable [LawfulGuestBytes M]

/-- Without a limiter and with no chain left, a chain too small for the deferred frame is used
with the bytes that fit. -/
theorem step_rx_queue_too_small (hd : s.deferred_frame = true) (hs : s.halted = false)
    (h : s.rate_limiter = .default) (ha : s.avail = [])
    (hc : ∀ d ∈ c.descs, d.write_only = true ∧ d.InMemory s.mem)
    (hlt : Rx.capacity c < s.frame_buf.length) :
    ∃ (buffers : List Frame) (mem : M), buffers.flatten = s.frame_buf.take (Rx.capacity c) ∧
      (∀ a, GuestBytes.address_in_range mem a = GuestBytes.address_in_range s.mem a) ∧
      step s (.rx_queue [c]) =
        { s with
          mem := mem
          used := s.used ++ [⟨c.head_index, Rx.capacity c, buffers⟩]
          deferred_irqs := false
          irqs := s.irqs + 1 } := by
  obtain ⟨buffers, mem, hflat, hlay, e⟩ := Rx.resume_rx_too_small
    (s := { s with avail := s.avail ++ [c] }) hd hs h (by rw [ha]; rfl) hc hlt
  refine ⟨buffers, mem, hflat, hlay, ?_⟩
  rw [step_rx_queue_of_unblocked hs (by rw [h]; rfl), e, ha]

/-- Without a limiter and with the tap empty, a chain large enough takes the deferred frame. -/
theorem step_rx_queue_whole (hd : s.deferred_frame = true) (hs : s.halted = false)
    (h : s.rate_limiter = .default) (ht : s.tap = []) (ha : s.avail = [])
    (hc : ∀ d ∈ c.descs, d.write_only = true ∧ d.InMemory s.mem)
    (hle : s.frame_buf.length ≤ Rx.capacity c) :
    ∃ (buffers : List Frame) (mem : M), buffers.flatten = s.frame_buf ∧
      step s (.rx_queue [c]) =
        { s with
          deferred_frame := false
          mem := mem
          used := s.used ++ [⟨c.head_index, s.frame_buf.length, buffers⟩]
          deferred_irqs := false
          irqs := s.irqs + 1
          delivered := s.delivered ++ [s.frame_buf]
          ops_charged := s.ops_charged + 1
          bytes_charged := s.bytes_charged + s.frame_buf.length } := by
  obtain ⟨buffers, mem, hflat, e⟩ := Rx.resume_rx_whole (s := { s with avail := s.avail ++ [c] })
    hd hs h ht (by rw [ha]; rfl) hc hle
  refine ⟨buffers, mem, hflat, ?_⟩
  rw [step_rx_queue_of_unblocked hs (by rw [h]; rfl), e, ha]

end Redelivered

/-- Over every run from the start, while the handler runs, each frame that arrived is delivered
whole, held back or still in the tap, in order, and the limiter holds the tokens of the frames
delivered whole only; with a limiter whose buckets refill the handler runs for ever. But a frame
that meets a chain too small for it reaches the guest twice: its first bytes in that chain, then
whole in the next. -/
theorem rx_partial_frame_redelivered {M : Type} [GuestBytes M] [LawfulGuestBytes M] :
    (∀ (mem : M) (rate_limiter : RateLimiter) (es : List Event),
      Rx.Inv (Transition.run step (Rx.init mem rate_limiter) es)) ∧
    (∀ (mem : M) (rate_limiter : RateLimiter) (es : List Event), rate_limiter.Refills →
      (Transition.run step (Rx.init mem rate_limiter) es).halted = false) ∧
    ∀ (mem : M) (frame : Frame) (small big : DescriptorChain),
      (∀ d ∈ small.descs, d.write_only = true ∧ d.InMemory mem) →
      (∀ d ∈ big.descs, d.write_only = true ∧ d.InMemory mem) →
      0 < Rx.capacity small → Rx.capacity small < frame.length →
      frame.length ≤ Rx.capacity big →
      ∃ b₁ b₂ : List Frame, b₁.flatten = frame.take (Rx.capacity small) ∧ b₂.flatten = frame ∧
        (Transition.run step (Rx.init mem .default)
            [.rx_tap [frame], .rx_queue [small], .rx_queue [big]]).used =
          [⟨small.head_index, Rx.capacity small, b₁⟩, ⟨big.head_index, frame.length, b₂⟩] ∧
        (Transition.run step (Rx.init mem .default)
            [.rx_tap [frame], .rx_queue [small], .rx_queue [big]]).delivered = [frame] := by
  refine ⟨fun mem rate_limiter es => (Rx.Inv.init mem rate_limiter).run es,
    fun mem _ es hr => run_not_halted mem hr es, ?_⟩
  intro mem frame small big hs hb _ hlt hle
  -- the frame is read while no chain is available, and deferred
  obtain ⟨b₁, mem₁, hb₁, hlay₁, e₂⟩ := step_rx_queue_too_small
    (s := step (Rx.init mem .default) (.rx_tap [frame])) rfl rfl rfl rfl hs hlt
  -- the small chain's writes keep the big chain's buffers in guest memory
  have hb' : ∀ d ∈ big.descs, d.write_only = true ∧ d.InMemory mem₁ := fun d hd =>
    ⟨(hb d hd).1, Rx.in_memory_of_layout (hb d hd).2 hlay₁⟩
  obtain ⟨b₂, mem₂, hb₂, e₃⟩ := step_rx_queue_whole
    (s := step (step (Rx.init mem .default) (.rx_tap [frame])) (.rx_queue [small]))
    (by rw [e₂]; rfl) (by rw [e₂]; rfl) (by rw [e₂]; rfl) (by rw [e₂]; rfl) (by rw [e₂]; rfl)
    (by rw [e₂]; exact hb') (by rw [e₂]; exact hle)
  refine ⟨b₁, b₂, hb₁, ?_, ?_, ?_⟩
  · rw [e₂] at hb₂
    exact hb₂
  · rw [Transition.run_cons, Transition.run_cons, Transition.run_cons, Transition.run_nil, e₃]
    dsimp only
    rw [e₂]
    rfl
  · rw [Transition.run_cons, Transition.run_cons, Transition.run_cons, Transition.run_nil, e₃]
    dsimp only
    rw [e₂]
    rfl

/-- A guest whose memory is its first page, at host `0x10000000`. -/
def rx_memory : GuestMemoryHybrid where
  regions := [⟨0, 0x1000, 0x10000000, none⟩]
  nonempty := by decide
  valid := by decide
  sorted := by decide
  bytes _ := 0

/-- A frame of three bytes, a chain of one byte at `0`, then a chain of four at `0x10`: the
guest's used ring shows the first byte, then the frame whole. -/
theorem rx_partial_frame_redelivered_three :
    LawfulGuestBytes GuestMemoryHybrid ∧
    ∃ b₁ b₂ : List Frame, b₁.flatten = [1] ∧ b₂.flatten = [1, 2, 3] ∧
      (Transition.run step (Rx.init rx_memory .default)
          [.rx_tap [[1, 2, 3]], .rx_queue [⟨0, [⟨0, 1, true⟩]⟩],
            .rx_queue [⟨1, [⟨0x10, 4, true⟩]⟩]]).used =
        [⟨0, 1, b₁⟩, ⟨1, 3, b₂⟩] ∧
      (Transition.run step (Rx.init rx_memory .default)
          [.rx_tap [[1, 2, 3]], .rx_queue [⟨0, [⟨0, 1, true⟩]⟩],
            .rx_queue [⟨1, [⟨0x10, 4, true⟩]⟩]]).delivered = [[1, 2, 3]] :=
  ⟨inferInstance, rx_partial_frame_redelivered.2.2 rx_memory [1, 2, 3] ⟨0, [⟨0, 1, true⟩]⟩
    ⟨1, [⟨0x10, 4, true⟩]⟩ (by decide) (by decide) (by decide) (by decide) (by decide)⟩

end KataContainers.Dragonball.Net
