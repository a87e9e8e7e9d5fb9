import KataContainers.Lib.Ring
import KataContainers.Lib.Transition

/-!
# The TX buffer of a vsock connection

Model of `TxBuf` (`vsock/csm/txbuf.rs`), the ring buffer in which a connection keeps the bytes
from the guest that the host stream has not taken yet, and of the host stream's `write`. The
store is a function of the position; its lazy allocation is left out, as a new store reads `0`
everywhere. `head` and `tail` are wrapping `u32` counters, and positions are taken `% SIZE`,
which divides `2 ^ 32`.

`TxBuf.Holds b xs` relates a buffer to the bytes `xs` it holds, oldest first: a push of bytes
that fit appends them (`push_ok`), a push that does not fit fails with `TxBufFull` and changes
nothing (`push_full`), and `flush_to`, with its one or two writes around the end of the store,
offers the host stream the bytes held, returns what the stream accepts of them
(`HostStream.accepts`) and hands it those first bytes (`flush_to_spec`).

A `TxRun` follows a buffer from empty through pushes and flushes, with the host stream and the
bytes pushed so far: after every run the stream has taken a prefix of the bytes pushed and the
buffer holds the rest (`TxRun.reachable_inv`).
-/

namespace KataContainers.Dragonball.Vsock

/-- Vsock connection TX buffer capacity. -/
def CONN_TX_BUF_SIZE : UInt32 := 64 * 1024

/-- When the guest thinks we have less than this amount of free buffer space, we will send them a
credit update packet. -/
def CONN_CREDIT_UPDATE_THRESHOLD : UInt32 := 4 * 1024

/-- The `ErrorKind` of an I/O error, as far as the connection looks at it. -/
inductive IoErrorKind
  | WouldBlock
  | Other
  deriving DecidableEq, Repr

inductive Error
  | TxBufFull
  | TxBufFlush (kind : IoErrorKind)
  | StreamWrite (kind : IoErrorKind)
  deriving DecidableEq, Repr

/-- How a write to the host stream ends: it takes the first `n` bytes (at most all of them), it
would block, or it fails. -/
inductive WriteResult
  | ok (n : Nat)
  | would_block
  | error
  deriving DecidableEq, Repr

/-- How a read from the host stream ends: it reads `n` bytes (at most as many as asked), it would
block, or it fails. -/
inductive ReadResult
  | ok (n : Nat)
  | would_block
  | error
  deriving DecidableEq, Repr

/-- The host end of the connected stream: the bytes it has taken, in order, and how the coming
writes and reads end. -/
structure HostStream where
  taken : List UInt8
  writes : List WriteResult
  reads : List ReadResult
  deriving DecidableEq, Repr

namespace HostStream

/-- `Write::write`. A write that the environment gave no answer for would block. -/
def write (k : HostStream) (buf : List UInt8) : HostStream × Except IoErrorKind Nat :=
  match k.writes with
  | .ok n :: writes =>
    let n := min n buf.length
    ({ k with taken := k.taken ++ buf.take n, writes }, .ok n)
  | .would_block :: writes => ({ k with writes }, .error .WouldBlock)
  | .error :: writes => ({ k with writes }, .error .Other)
  | [] => (k, .error .WouldBlock)

/-- `Read::read` into a buffer of `max_len` bytes; only the number of bytes read is kept. -/
def read (k : HostStream) (max_len : Nat) : HostStream × Except IoErrorKind Nat :=
  match k.reads with
  | .ok n :: reads => ({ k with reads }, .ok (min n max_len))
  | .would_block :: reads => ({ k with reads }, .error .WouldBlock)
  | .error :: reads => ({ k with reads }, .error .Other)
  | [] => (k, .error .WouldBlock)

variable {k : HostStream} {buf : List UInt8}

/-- A write that succeeds hands the host end a prefix of the bytes. -/
theorem write_ok {n : Nat} (h : (k.write buf).2 = .ok n) :
    n ≤ buf.length ∧ (k.write buf).1.taken = k.taken ++ buf.take n := by
  unfold write at h ⊢
  split at h
  · cases h
    exact ⟨Nat.min_le_right _ _, rfl⟩
  all_goals cases h

/-- A write that fails hands over nothing. -/
theorem write_error {e : IoErrorKind} (h : (k.write buf).2 = .error e) :
    (k.write buf).1.taken = k.taken := by
  unfold write at h ⊢
  split at h <;> first | rfl | cases h

/-- A write fails with an error other than `WouldBlock` only when the environment says so. -/
theorem write_other (h : (k.write buf).2 = .error .Other) : k.writes.head? = some .error := by
  unfold write at h
  split at h <;> first | rfl | cases h
  all_goals simp_all

/-- A write that succeeds took its answer from the environment. -/
theorem write_eq_ok {w : Nat} (h : (k.write buf).2 = .ok w) :
    ∃ n, k.writes = .ok n :: (k.write buf).1.writes ∧ w = min n buf.length := by
  unfold write at h ⊢
  split at h
  · rename_i n writes hk
    cases h
    exact ⟨n, hk, rfl⟩
  all_goals cases h

/-- How many bytes of `chunks`, offered one after the other, a stream whose writes end as
`writes` accepts: a chunk taken in part ends the offer, and a failure after the first chunk
leaves what was accepted before it. -/
def accepts : List WriteResult → List (List UInt8) → Except IoErrorKind Nat
  | _, [] => .ok 0
  | [], _ :: _ => .error .WouldBlock
  | .would_block :: _, _ :: _ => .error .WouldBlock
  | .error :: _, _ :: _ => .error .Other
  | .ok n :: writes, c :: chunks =>
    if n < c.length then .ok n
    else
      match accepts writes chunks with
      | .ok m => .ok (c.length + m)
      | .error _ => .ok c.length

example : accepts [.ok 9, .ok 1] [[1, 2, 3], [4, 5]] = .ok 4 := by decide

example : accepts [.ok 3, .error] [[1, 2, 3], [4, 5]] = .ok 3 := by decide

/-- A write that fails is the stream refusing the first chunk. -/
theorem accepts_of_write_error {e : IoErrorKind} (h : (k.write buf).2 = .error e)
    (c : List UInt8) (chunks : List (List UInt8)) : accepts k.writes (c :: chunks) = .error e := by
  unfold write at h
  split at h
  · cases h
  all_goals
    rename_i hk
    cases h
    rw [hk, accepts]

@[simp] theorem read_taken {max_len : Nat} : (k.read max_len).1.taken = k.taken := by
  unfold read
  split <;> rfl

/-- A read never reports more bytes than it was asked for. -/
theorem read_le {max_len n : Nat} (h : (k.read max_len).2 = .ok n) : n ≤ max_len := by
  unfold read at h
  split at h
  · cases h
    exact Nat.min_le_right _ _
  all_goals cases h

end HostStream

/-- A simple ring-buffer implementation, used by vsock connections to buffer TX (guest -> host)
data. -/
structure TxBuf where
  data : Nat → UInt8
  head : UInt32
  tail : UInt32

namespace TxBuf

/-- Total buffer size, in bytes. -/
def SIZE : Nat := CONN_TX_BUF_SIZE.toNat

def default : TxBuf := ⟨fun _ => 0, 0, 0⟩

/-- The number of bytes that have been pushed in, but not yet flushed out. -/
def len (b : TxBuf) : Nat := (b.head - b.tail).toNat

def is_empty (b : TxBuf) : Bool := b.len == 0

/-- Push a byte slice onto the ring-buffer: all of it, or none of it if there isn't enough
room. -/
def push (b : TxBuf) (src : List UInt8) : Except Error TxBuf :=
  -- Error out if there's no room to push the entire slice.
  if b.len + src.length > SIZE then .error .TxBufFull
  else
    -- Buffer head, as an offset into the data slice.
    let head_ofs := b.head.toNat % SIZE
    -- First copy length: we can only go from the head offset up to the total buffer size.
    let len := min (SIZE - head_ofs) src.length
    let data := Ring.copy b.data head_ofs (src.take len)
    -- If the slice didn't fit, pushing continues from the start of the buffer.
    let data := if len < src.length then Ring.copy data 0 (src.drop len) else data
    .ok { b with data, head := b.head + src.length.toUInt32 }

theorem len_advance {b : TxBuf} {w : Nat} (hw : w ≤ b.len) :
    { b with tail := b.tail + w.toUInt32 }.len = b.len - w := by
  simp only [len, UInt32.toNat_sub, UInt32.toNat_add, Nat.toUInt32_eq, UInt32.toNat_ofNat'] at hw ⊢
  have := b.head.toNat_lt
  have := b.tail.toNat_lt
  omega

theorem SIZE_eq : SIZE = 65536 := rfl

theorem SIZE_pos : 0 < SIZE := by decide

/-- Flush the contents of the ring-buffer to the host stream, and return the number of bytes
that have been transferred: one write up to the end of the store, and a second one from its start
when the first took all it was given. -/
def flush_to (b : TxBuf) (sink : HostStream) : TxBuf × HostStream × Except Error Nat :=
  -- Nothing to do, if this buffer holds no data.
  if _hb : b.is_empty then (b, sink, .ok 0)
  else
    -- Buffer tail, as an offset into the buffer data slice.
    let tail_ofs := b.tail.toNat % SIZE
    -- First write length: the lesser of tail to slice end, or tail to head.
    let len_to_write := min (SIZE - tail_ofs) b.len
    match _hw : sink.write (Ring.slice b.data tail_ofs len_to_write) with
    | (sink, .error e) => (b, sink, .error (.TxBufFlush e))
    | (sink, .ok written) =>
      let b' := { b with tail := b.tail + written.toUInt32 }
      if written < len_to_write then (b', sink, .ok written)
      else
        -- If the second write fails, the first one still counts.
        match b'.flush_to sink with
        | (b'', sink, .ok n) => (b'', sink, .ok (written + n))
        | (b'', sink, .error _) => (b'', sink, .ok written)
termination_by b.len
decreasing_by
  have hle := (HostStream.write_ok (congrArg Prod.snd _hw)).1
  simp only [Ring.length_slice] at hle
  have hne : b.len ≠ 0 := by simpa [is_empty] using _hb
  have hofs : b.tail.toNat % SIZE < SIZE := Nat.mod_lt _ SIZE_pos
  rw [len_advance (by omega)]
  omega

/-- What `notify` takes from the result of a flush: the bytes flushed, or `0` on an error. -/
def flushed : Except Error Nat → Nat
  | .ok n => n
  | .error _ => 0

/-- The pieces in which a flush from tail offset `tail_ofs` offers the bytes held `xs` to the
host stream: up to the end of the store, then the rest from its start. -/
def flush_chunks (tail_ofs : Nat) (xs : List UInt8) : List (List UInt8) :=
  if xs = [] then []
  else if SIZE - tail_ofs < xs.length then [xs.take (SIZE - tail_ofs), xs.drop (SIZE - tail_ofs)]
  else [xs]

/-- The pieces are the bytes held. -/
theorem flatten_flush_chunks (tail_ofs : Nat) (xs : List UInt8) :
    (flush_chunks tail_ofs xs).flatten = xs := by
  unfold flush_chunks
  split_ifs with hnil
  · exact hnil.symm
  · simp
  · simp

/-- The first piece is what the first write is given; the rest starts at the new tail. -/
theorem flush_chunks_cons {tail_ofs : Nat} {xs : List UInt8} (hne : xs ≠ []) (ht : tail_ofs < SIZE)
    (hle : xs.length ≤ SIZE) :
    flush_chunks tail_ofs xs = xs.take (min (SIZE - tail_ofs) xs.length) ::
      flush_chunks ((tail_ofs + min (SIZE - tail_ofs) xs.length) % SIZE)
        (xs.drop (min (SIZE - tail_ofs) xs.length)) := by
  unfold flush_chunks
  rw [if_neg hne]
  by_cases hwrap : SIZE - tail_ofs < xs.length
  · -- the rest starts at offset `0` and fits before the end of the store
    have hrest : xs.drop (SIZE - tail_ofs) ≠ [] := by
      simpa [← List.length_pos_iff] using hwrap
    rw [if_pos hwrap, Nat.min_eq_left hwrap.le, show tail_ofs + (SIZE - tail_ofs) = SIZE by omega,
      Nat.mod_self, if_neg hrest, if_neg (by simp; omega)]
  · rw [if_neg hwrap, Nat.min_eq_right (by omega), List.take_length, List.drop_length]
    simp

/-- Moving the tail moves its offset as much, around the end: `SIZE` divides `2 ^ 32`. -/
theorem tail_ofs_advance (b : TxBuf) (w : Nat) :
    (b.tail + w.toUInt32).toNat % SIZE = (b.tail.toNat % SIZE + w) % SIZE := by
  rw [SIZE_eq]
  simp only [UInt32.toNat_add, Nat.toUInt32_eq, UInt32.toNat_ofNat']
  omega

/-! ## The bytes a buffer holds -/

/-- The buffer holds the bytes `xs`, oldest first. -/
structure Holds (b : TxBuf) (xs : List UInt8) : Prop where
  len_eq : b.len = xs.length
  le : xs.length ≤ SIZE
  ring : Ring.Holds SIZE b.data b.tail.toNat xs

theorem default_holds : default.Holds [] :=
  ⟨rfl, Nat.zero_le _, fun _ h => absurd h (Nat.not_lt_zero _)⟩

variable {b : TxBuf} {xs : List UInt8}

theorem Holds.is_empty_iff (h : b.Holds xs) : b.is_empty = true ↔ xs = [] := by
  simp [is_empty, h.len_eq]

/-- The head sits right after the bytes held. -/
theorem Holds.head_ofs (h : b.Holds xs) : b.head.toNat % SIZE = (b.tail.toNat + xs.length) % SIZE := by
  rw [← h.len_eq, SIZE_eq]
  simp only [len, UInt32.toNat_sub]
  have := b.head.toNat_lt
  have := b.tail.toNat_lt
  omega

/-- A push of bytes that fit appends them. -/
theorem push_ok (h : b.Holds xs) {src : List UInt8} (hfit : xs.length + src.length ≤ SIZE) :
    ∃ b', b.push src = .ok b' ∧ b'.Holds (xs ++ src) := by
  refine ⟨_, by rw [push, if_neg (by rw [h.len_eq]; omega)], ?_, by simpa using hfit, ?_⟩
  · -- the head moves by the length of the slice
    have hl := h.len_eq
    rw [SIZE_eq] at hfit
    simp only [len, UInt32.toNat_sub, UInt32.toNat_add, Nat.toUInt32_eq, UInt32.toNat_ofNat',
      List.length_append] at hl ⊢
    have := b.head.toNat_lt
    have := b.tail.toNat_lt
    omega
  · rw [h.head_ofs]
    exact h.ring.put SIZE_pos hfit

/-- A push of bytes that do not fit fails, and the buffer stays as it is. -/
theorem push_full (h : b.Holds xs) {src : List UInt8} (hfull : SIZE < xs.length + src.length) :
    b.push src = .error .TxBufFull := by
  rw [push, if_pos (by rw [h.len_eq]; omega)]

theorem push_error {src : List UInt8} {e : Error} (h : b.push src = .error e) :
    e = .TxBufFull := by
  unfold push at h
  split_ifs at h
  · cases h
    rfl

/-- Moving the tail by `w` bytes held drops them. -/
theorem Holds.advance (h : b.Holds xs) {w : Nat} (hw : w ≤ xs.length) :
    { b with tail := b.tail + w.toUInt32 }.Holds (xs.drop w) := by
  refine ⟨by rw [len_advance (by rw [h.len_eq]; exact hw), h.len_eq, List.length_drop],
    by simpa using Nat.le_trans (Nat.sub_le _ _) h.le, ?_⟩
  refine (h.ring.drop w).congr ?_
  have := h.le
  rw [SIZE_eq] at this ⊢
  simp only [UInt32.toNat_add, Nat.toUInt32_eq, UInt32.toNat_ofNat']
  omega

/-- A flush offers the host stream the bytes held in the pieces of `flush_chunks` and returns
what the stream accepted of them; it hands the stream those first bytes held (none on an error)
and keeps the rest. -/
theorem flush_to_spec {b : TxBuf} {xs : List UInt8} (h : b.Holds xs) (sink : HostStream) :
    (b.flush_to sink).1.Holds (xs.drop (flushed (b.flush_to sink).2.2)) ∧
      (b.flush_to sink).2.1.taken = sink.taken ++ xs.take (flushed (b.flush_to sink).2.2) ∧
      flushed (b.flush_to sink).2.2 ≤ xs.length ∧
      (b.flush_to sink).2.2 =
        (HostStream.accepts sink.writes (flush_chunks (b.tail.toNat % SIZE) xs)).mapError
          .TxBufFlush := by
  rw [flush_to]
  split
  · rename_i hb
    obtain rfl := h.is_empty_iff.mp hb
    exact ⟨by simpa [flushed] using h, by simp [flushed], by simp [flushed],
      by simp [flush_chunks, HostStream.accepts, Except.mapError]⟩
  rename_i hb
  have hne : xs ≠ [] := fun he => hb ((h.is_empty_iff).mpr he)
  have hlen := h.len_eq
  have hofs : b.tail.toNat % SIZE < SIZE := Nat.mod_lt _ SIZE_pos
  -- the first write takes the bytes from the tail up to the end of the store
  have hslice : Ring.slice b.data (b.tail.toNat % SIZE) (min (SIZE - b.tail.toNat % SIZE) b.len) =
      xs.take (min (SIZE - b.tail.toNat % SIZE) b.len) :=
    h.ring.slice (by omega) (by omega)
  -- and the pieces offered are those bytes, then the rest from the new tail
  have hchunks := flush_chunks_cons hne hofs h.le
  rw [← hlen] at hchunks
  extract_lets tail_ofs len_to_write
  split
  · rename_i sink' e hw
    have := HostStream.write_error (congrArg Prod.snd hw)
    rw [hw] at this
    refine ⟨by simpa [flushed] using h, by simpa [flushed] using this, by simp [flushed], ?_⟩
    rw [hchunks, HostStream.accepts_of_write_error (congrArg Prod.snd hw)]
    rfl
  rename_i sink' written hw
  obtain ⟨hle, htaken⟩ := HostStream.write_ok (congrArg Prod.snd hw)
  obtain ⟨n, hwrites, hn⟩ := HostStream.write_eq_ok (congrArg Prod.snd hw)
  rw [hw, hslice] at htaken
  rw [hw] at hwrites
  rw [hslice, List.length_take] at hle hn
  have hw' : written ≤ xs.length := by omega
  have h' := h.advance hw'
  have htaken' : sink'.taken = sink.taken ++ xs.take written := by
    rw [htaken, List.take_take, Nat.min_eq_left (by omega)]
  rw [hchunks, hwrites, HostStream.accepts, List.length_take, Nat.min_eq_left (by omega)]
  dsimp only
  split
  · -- the stream took part of the first piece: that is all it accepted
    rename_i hpart
    have hnw : n = written := by
      have : written < min (SIZE - b.tail.toNat % SIZE) b.len := hpart
      omega
    rw [if_pos (by omega), hnw]
    exact ⟨h', htaken', hw', rfl⟩
  -- the first write took all it was given: the second starts at the start of the store
  rename_i hall
  have hwL : written = min (SIZE - b.tail.toNat % SIZE) b.len := by
    have : ¬ written < min (SIZE - b.tail.toNat % SIZE) b.len := hall
    omega
  have hlt : ({ b with tail := b.tail + written.toUInt32 } : TxBuf).len < b.len := by
    have := List.length_pos_iff.mpr hne
    rw [len_advance (by omega)]
    omega
  obtain ⟨ih₁, ih₂, ih₃, ih₄⟩ := flush_to_spec h' sink'
  rw [tail_ofs_advance] at ih₄
  rw [if_neg (by omega), ← hwL]
  split
  · rename_i b'' sink'' m hrec
    rw [hrec] at ih₁ ih₂ ih₃ ih₄
    simp only [flushed, List.length_drop] at ih₁ ih₂ ih₃ ⊢
    rw [List.drop_drop] at ih₁
    refine ⟨ih₁, by rw [ih₂, htaken', List.append_assoc, ← List.take_add], by omega, ?_⟩
    -- the stream accepted the second piece as far as the second write reports
    cases hrest : HostStream.accepts sink'.writes
        (flush_chunks ((b.tail.toNat % SIZE + written) % SIZE) (xs.drop written)) <;>
      simp_all [Except.mapError]
  · rename_i b'' sink'' e hrec
    rw [hrec] at ih₁ ih₂ ih₄
    simp only [flushed, List.drop_zero, List.take_zero, List.append_nil] at ih₁ ih₂ ⊢
    refine ⟨ih₁, by rw [ih₂, htaken'], hw', ?_⟩
    -- a failure of the second write leaves what the first took
    cases hrest : HostStream.accepts sink'.writes
        (flush_chunks ((b.tail.toNat % SIZE + written) % SIZE) (xs.drop written)) <;>
      simp_all [Except.mapError]
termination_by b.len
decreasing_by exact hlt

end TxBuf

/-! ## Runs of a buffer -/

/-- What a connection does to its TX buffer: push the bytes of a packet, or flush to the host
stream, whose coming writes end as `writes` says. -/
inductive TxOp
  | push (src : List UInt8)
  | flush_to (writes : List WriteResult)

/-- A buffer along a run: the buffer, the host stream it flushes to, and the bytes of the pushes
that succeeded, in order. -/
structure TxRun where
  buf : TxBuf
  sink : HostStream
  pushed : List UInt8

namespace TxRun

/-- One operation; a push that fails changes nothing. -/
def step (r : TxRun) : TxOp → TxRun
  | .push src =>
    match r.buf.push src with
    | .ok b => { r with buf := b, pushed := r.pushed ++ src }
    | .error _ => r
  | .flush_to writes =>
    let (b, sink, _) := r.buf.flush_to { r.sink with writes }
    { r with buf := b, sink }

/-- A new buffer, and a host stream that has taken nothing. -/
def Init (r : TxRun) : Prop := r.buf = TxBuf.default ∧ r.sink.taken = [] ∧ r.pushed = []

/-- The bytes pushed are those the host stream took, followed by those the buffer holds. -/
def Inv (r : TxRun) : Prop := ∃ xs, r.buf.Holds xs ∧ r.sink.taken ++ xs = r.pushed

theorem inv_init {r : TxRun} (h : r.Init) : r.Inv := by
  obtain ⟨hb, ht, hp⟩ := h
  exact ⟨[], hb ▸ TxBuf.default_holds, by rw [ht, hp]; rfl⟩

/-- One operation keeps the invariant. -/
theorem step_inv {r : TxRun} (h : r.Inv) (op : TxOp) : (r.step op).Inv := by
  obtain ⟨xs, hxs, hpushed⟩ := h
  cases op with
  | push src =>
    by_cases hfit : xs.length + src.length ≤ TxBuf.SIZE
    · obtain ⟨b', hb', hholds⟩ := TxBuf.push_ok hxs hfit
      refine ⟨xs ++ src, ?_, ?_⟩
      · simp only [step, hb']
        exact hholds
      · simp only [step, hb']
        rw [← hpushed, List.append_assoc]
    · have hfull := TxBuf.push_full hxs (show TxBuf.SIZE < xs.length + src.length by omega)
      simp only [step, hfull]
      exact ⟨xs, hxs, hpushed⟩
  | flush_to writes =>
    obtain ⟨hholds, htaken, -⟩ := TxBuf.flush_to_spec hxs { r.sink with writes }
    refine ⟨_, hholds, ?_⟩
    simp only [step]
    rw [htaken, List.append_assoc, List.take_append_drop, hpushed]

theorem reachable_inv {r : TxRun} (h : Transition.Reachable Init step r) : r.Inv :=
  h.invariant (fun _ hr => inv_init hr) (fun _ op hr => step_inv hr op)

end TxRun

end KataContainers.Dragonball.Vsock
