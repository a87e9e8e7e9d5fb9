import KataContainers.Dragonball.Vsock.TxBuf

/-!
# The vsock connection state machine

Model of `VsockConnection` (`vsock/csm/connection.rs`) and of the pieces of `vsock/csm/mod.rs` it
uses: the connection state `ConnState`, the pending RX indications `PendingRxSet` (a `u16`
bitmask), and the four things that happen to a connection: `recv_pkt` fills in a packet for the
guest, `send_pkt` takes one from it, `notify` reports host stream readiness, and `kill` schedules
an RST. The host stream is `HostStream`: what it takes from a write and what a read returns are
the environment's answers. `Instant::now()` is the argument `now`, in milliseconds. A packet for
the guest is its header `PktHdr`, whose data buffer only matters through its length.

`StateStep` is the protocol's transitions of the connection state; `TxStep` and `RxStep` tie
each to the packet behind it, from the guest or to it. The bitmask lemmas
`contains_insert` and `contains_remove` say what the pending set holds; a `Clean` set holds no
other bit, so that it is empty once its indications are gone. What each operation does is in
`Vsock/ConnectionOps.lean`.
-/

namespace KataContainers.Dragonball.Vsock.Csm

def VSOCK_OP_REQUEST : UInt16 := 1
def VSOCK_OP_RESPONSE : UInt16 := 2
def VSOCK_OP_RST : UInt16 := 3
def VSOCK_OP_SHUTDOWN : UInt16 := 4
def VSOCK_OP_RW : UInt16 := 5
def VSOCK_OP_CREDIT_UPDATE : UInt16 := 6
def VSOCK_OP_CREDIT_REQUEST : UInt16 := 7

def VSOCK_FLAGS_SHUTDOWN_RCV : UInt32 := 1
def VSOCK_FLAGS_SHUTDOWN_SEND : UInt32 := 2

def VSOCK_TYPE_STREAM : UInt16 := 1

/-- Connection request timeout, in millis. -/
def CONN_REQUEST_TIMEOUT_MS : Nat := 2000

/-- Connection graceful shutdown timeout, in millis. -/
def CONN_SHUTDOWN_TIMEOUT_MS : Nat := 2000

/-- The errors of `VsockChannel::recv_pkt`. -/
inductive VsockError
  | NoData
  | PktBufMissing
  deriving DecidableEq, Repr

/-- A vsock connection state. `PeerClosed` holds the guest's indications: it will not receive,
it will not send. -/
inductive ConnState
  | LocalInit
  | PeerInit
  | Established
  | LocalClosed
  | PeerClosed (recv_off send_off : Bool)
  | Killed
  deriving DecidableEq, Repr

/-- The states in which a data packet may go to the peer: `recv_pkt`'s test before it reads. -/
def ConnState.sends_data : ConnState → Bool
  | .Established | .PeerClosed false _ => true
  | _ => false

/-- The protocol's transitions of a connection state: the handshake, from either side; a shutdown
by the guest, whose indications are never taken back; the host stream's end; and a kill, from
anywhere. -/
inductive StateStep : ConnState → ConnState → Prop
  | stay (s : ConnState) : StateStep s s
  | local_established : StateStep .LocalInit .Established
  | peer_established : StateStep .PeerInit .Established
  | peer_closed (recv_off send_off : Bool) : StateStep .Established (.PeerClosed recv_off send_off)
  | peer_closed_more {r s r' s' : Bool} :
      (r = true → r' = true) → (s = true → s' = true) → StateStep (.PeerClosed r s) (.PeerClosed r' s')
  | local_closed : StateStep .Established .LocalClosed
  | local_closed_peer (send_off : Bool) : StateStep (.PeerClosed false send_off) .LocalClosed
  | killed (s : ConnState) : StateStep s .Killed

/-- No transition leaves `Killed`. -/
theorem StateStep.killed_absorbing {s : ConnState} (h : StateStep .Killed s) : s = .Killed := by
  cases h <;> rfl

/-- No transition leads into `LocalInit`. -/
theorem StateStep.local_init_of {s : ConnState} (h : StateStep s .LocalInit) : s = .LocalInit := by
  cases h
  rfl

/-- The host stream's end moves only a state that sends data. -/
theorem local_closed_step {s : ConnState} (h : s.sends_data = true) : StateStep s .LocalClosed := by
  cases s with
  | Established => exact .local_closed
  | PeerClosed recv_off send_off =>
    cases recv_off
    · exact .local_closed_peer _
    · cases h
  | _ => cases h

/-- An RX indication, used to schedule future `recv_pkt()` responses. -/
inductive PendingRx
  | Request
  | Response
  | Rst
  | Rw
  | CreditUpdate
  deriving DecidableEq, Repr

/-- The discriminant, `self as u16`. -/
def PendingRx.idx : PendingRx → Nat
  | .Request => 0
  | .Response => 1
  | .Rst => 2
  | .Rw => 3
  | .CreditUpdate => 4

def PendingRx.into_mask (it : PendingRx) : UInt16 := 1 <<< it.idx.toUInt16

/-- A set of RX indications. -/
structure PendingRxSet where
  data : UInt16
  deriving DecidableEq, Repr

namespace PendingRxSet

def insert (s : PendingRxSet) (it : PendingRx) : PendingRxSet := ⟨s.data ||| it.into_mask⟩

def contains (s : PendingRxSet) (it : PendingRx) : Bool := s.data &&& it.into_mask != 0

/-- Remove an item, and say whether it was in the set. -/
def remove (s : PendingRxSet) (it : PendingRx) : Bool × PendingRxSet :=
  (s.contains it, ⟨s.data &&& ~~~it.into_mask⟩)

def is_empty (s : PendingRxSet) : Bool := s.data == 0

/-- The set containing only one item. -/
def from_item (it : PendingRx) : PendingRxSet := ⟨it.into_mask⟩

theorem mask_toBitVec (it : PendingRx) : it.into_mask.toBitVec = BitVec.twoPow 16 it.idx := by
  cases it <;> decide

theorem idx_lt (it : PendingRx) : it.idx < 16 := by
  cases it <;> decide

theorem idx_inj {a b : PendingRx} (h : a.idx = b.idx) : a = b := by
  cases a <;> cases b <;> simp_all [PendingRx.idx]

/-- An item is in the set when its bit is set. -/
theorem contains_eq (s : PendingRxSet) (it : PendingRx) :
    s.contains it = s.data.toBitVec.getLsbD it.idx := by
  have h : (s.data &&& it.into_mask = 0) ↔ (s.data.toBitVec &&& BitVec.twoPow 16 it.idx = 0#16) := by
    rw [← UInt16.toBitVec_inj, UInt16.toBitVec_and, mask_toBitVec]
    rfl
  rw [BitVec.and_twoPow] at h
  have hne : BitVec.twoPow 16 it.idx ≠ 0#16 := by
    cases it <;> decide
  unfold contains
  by_cases hb : s.data.toBitVec.getLsbD it.idx
  · simp only [hb, if_true] at h
    simp [hb, h, hne]
  · simp only [hb] at h
    simp [hb, h]

@[simp] theorem contains_insert (s : PendingRxSet) (a b : PendingRx) :
    (s.insert a).contains b = (a == b || s.contains b) := by
  rw [contains_eq, contains_eq]
  simp only [insert, UInt16.toBitVec_or, BitVec.getLsbD_or, mask_toBitVec, BitVec.getLsbD_twoPow]
  have := idx_lt b
  by_cases h : a = b
  · subst h
    simp [this]
  · have : a.idx ≠ b.idx := fun e => h (idx_inj e)
    simp [h, this, Bool.or_comm]

@[simp] theorem contains_remove (s : PendingRxSet) (a b : PendingRx) :
    (s.remove a).2.contains b = (a != b && s.contains b) := by
  rw [contains_eq, contains_eq]
  simp only [remove, UInt16.toBitVec_and, UInt16.toBitVec_not, BitVec.getLsbD_and,
    BitVec.getLsbD_not, mask_toBitVec, BitVec.getLsbD_twoPow]
  have hlt := idx_lt b
  by_cases h : a = b
  · subst h
    simp [hlt]
  · have : a.idx ≠ b.idx := fun e => h (idx_inj e)
    simp [bne_iff_ne.mpr h, this, hlt, Bool.and_comm]

@[simp] theorem remove_fst (s : PendingRxSet) (a : PendingRx) : (s.remove a).1 = s.contains a := rfl

@[simp] theorem contains_from_item (a b : PendingRx) : (from_item a).contains b = (a == b) := by
  rw [contains_eq]
  simp only [from_item, mask_toBitVec, BitVec.getLsbD_twoPow]
  have := idx_lt a
  by_cases h : a = b
  · subst h
    simp [this]
  · have : a.idx ≠ b.idx := fun e => h (idx_inj e)
    simp [h, this]

/-- `t` keeps every indication of `s`, and holds a `Response` only if `s` does: what every
operation but `recv_pkt` does to the pending indications. -/
structure Grows (s t : PendingRxSet) : Prop where
  keeps : ∀ it, s.contains it = true → t.contains it = true
  response : t.contains .Response = true → s.contains .Response = true

theorem Grows.refl (s : PendingRxSet) : s.Grows s := ⟨fun _ h => h, id⟩

theorem Grows.trans {s t u : PendingRxSet} (h₁ : s.Grows t) (h₂ : t.Grows u) : s.Grows u :=
  ⟨fun it h => h₂.keeps it (h₁.keeps it h), fun h => h₁.response (h₂.response h)⟩

theorem grows_insert (s : PendingRxSet) {it : PendingRx} (h : it ≠ .Response) :
    s.Grows (s.insert it) :=
  ⟨fun b hb => by simp [hb], fun hr => by simpa [h] using hr⟩

theorem contains_of_remove {s : PendingRxSet} {a it : PendingRx}
    (h : (s.remove a).2.contains it = true) : s.contains it = true := by
  simp_all


/-- The set holds no bit beyond the five indications'. `insert`, `remove` and `from_item` keep it
so, and `recv_pkt` relies on it: a set whose indications are all gone is then empty. -/
def Clean (s : PendingRxSet) : Prop := s.data.toNat < 2 ^ 5

instance (s : PendingRxSet) : Decidable s.Clean := inferInstanceAs (Decidable (_ < _))

/-- The number of indications in the set. -/
def card (s : PendingRxSet) : Nat :=
  [PendingRx.Request, .Response, .Rst, .Rw, .CreditUpdate].countP s.contains

theorem mask_lt (it : PendingRx) : it.into_mask.toNat < 2 ^ 5 := by
  cases it <;> decide

theorem clean_insert {s : PendingRxSet} (h : s.Clean) (it : PendingRx) : (s.insert it).Clean := by
  show (s.data ||| it.into_mask).toNat < 2 ^ 5
  rw [UInt16.toNat_or]
  exact Nat.or_lt_two_pow h (mask_lt it)

theorem clean_remove {s : PendingRxSet} (h : s.Clean) (it : PendingRx) : (s.remove it).2.Clean := by
  show (s.data &&& ~~~it.into_mask).toNat < 2 ^ 5
  rw [UInt16.toNat_and]
  exact lt_of_le_of_lt Nat.and_le_left h

theorem clean_from_item (it : PendingRx) : (from_item it).Clean := mask_lt it

/-- A clean set without any of the five indications is empty. -/
theorem is_empty_of_clean {s : PendingRxSet} (h : s.Clean) (hn : ∀ it, s.contains it = false) :
    s.is_empty = true := by
  have hbit : ∀ it : PendingRx, s.data.toNat.testBit it.idx = false := fun it => by
    rw [← hn it, contains_eq]
    rfl
  -- a number below `2 ^ 5` is zero when its five bits are
  have hbits : ∀ n : Fin 32, (n : Nat).testBit 0 = false → (n : Nat).testBit 1 = false →
      (n : Nat).testBit 2 = false → (n : Nat).testBit 3 = false → (n : Nat).testBit 4 = false →
      (n : Nat) = 0 := by decide
  have hzero : s.data.toNat = 0 :=
    hbits ⟨_, h⟩ (hbit .Request) (hbit .Response) (hbit .Rst) (hbit .Rw) (hbit .CreditUpdate)
  simp [is_empty, ← UInt16.toNat_inj, hzero]

theorem is_empty_of_contains {s : PendingRxSet} {it : PendingRx} (h : s.contains it = true) :
    s.is_empty = false := by
  rw [contains_eq] at h
  cases he : s.is_empty
  · rfl
  · simp only [is_empty, beq_iff_eq] at he
    simp [he] at h

theorem card_le (s : PendingRxSet) : s.card ≤ 5 := List.countP_le_length

/-- A set that holds no indication `s` lacks, and lacks one `s` holds, is smaller. -/
theorem card_lt {s t : PendingRxSet} (hsub : ∀ it, t.contains it = true → s.contains it = true)
    {it : PendingRx} (hs : s.contains it = true) (ht : t.contains it = false) : t.card < s.card := by
  -- each indication counts in `t` at most as in `s`, and `it` strictly less
  have hle : ∀ a, (if t.contains a = true then 1 else 0) ≤ (if s.contains a = true then 1 else 0) := by
    intro a
    cases hta : t.contains a
    · simp
    · simp [hsub a hta]
  have hlt : (if t.contains it = true then 1 else 0) < (if s.contains it = true then 1 else 0) := by
    simp [hs, ht]
  have h₁ := hle .Request
  have h₂ := hle .Response
  have h₃ := hle .Rst
  have h₄ := hle .Rw
  have h₅ := hle .CreditUpdate
  simp only [card, List.countP_cons, List.countP_nil]
  cases it <;> omega

end PendingRxSet

/-- A packet the guest hands to `send_pkt`: the header fields the connection reads, and the data
buffer, which `from_tx_virtq_head` makes at least `len` bytes long. -/
structure TxPkt where
  op : UInt16
  flags : UInt32
  len : UInt32
  buf_alloc : UInt32
  fwd_cnt : UInt32
  buf : Option (List UInt8)
  deriving DecidableEq, Repr

/-- The header of a packet that `recv_pkt` fills in for the guest. -/
structure PktHdr where
  src_cid : UInt64
  dst_cid : UInt64
  src_port : UInt32
  dst_port : UInt32
  type : UInt16
  op : UInt16
  flags : UInt32
  len : UInt32
  buf_alloc : UInt32
  fwd_cnt : UInt32
  deriving DecidableEq, Repr

/-- The transitions a packet from the guest may cause, each tied to its op: its RESPONSE confirms
a connection the host initiated, its SHUTDOWN ORs in the indications its flags carry, and RW data
that cannot be forwarded kills the connection. -/
inductive TxStep (pkt : TxPkt) : ConnState → ConnState → Prop
  | stay (s : ConnState) : TxStep pkt s s
  | local_established : pkt.op = VSOCK_OP_RESPONSE → TxStep pkt .LocalInit .Established
  | peer_closed : pkt.op = VSOCK_OP_SHUTDOWN →
      TxStep pkt .Established (.PeerClosed (pkt.flags &&& VSOCK_FLAGS_SHUTDOWN_RCV != 0)
        (pkt.flags &&& VSOCK_FLAGS_SHUTDOWN_SEND != 0))
  | peer_closed_more (recv_off send_off : Bool) : pkt.op = VSOCK_OP_SHUTDOWN →
      TxStep pkt (.PeerClosed recv_off send_off)
        (.PeerClosed (recv_off || pkt.flags &&& VSOCK_FLAGS_SHUTDOWN_RCV != 0)
          (send_off || pkt.flags &&& VSOCK_FLAGS_SHUTDOWN_SEND != 0))
  | killed (s : ConnState) : pkt.op = VSOCK_OP_RW → TxStep pkt s .Killed

/-- The transitions a packet yielded to the guest may cause, each tied to its op: the host's
RESPONSE confirms a connection the guest initiated, and the SHUTDOWN yielded when the host stream
reached its end closes a connection that was sending data. -/
inductive RxStep : Except VsockError PktHdr → ConnState → ConnState → Prop
  | stay (res : Except VsockError PktHdr) (s : ConnState) : RxStep res s s
  | peer_established {p : PktHdr} : p.op = VSOCK_OP_RESPONSE → RxStep (.ok p) .PeerInit .Established
  | local_closed {p : PktHdr} {s : ConnState} : s.sends_data = true → p.op = VSOCK_OP_SHUTDOWN →
      RxStep (.ok p) s .LocalClosed

/-- A guest packet's transition is one of the protocol's. -/
theorem TxStep.state_step {pkt : TxPkt} {s s' : ConnState} (h : TxStep pkt s s') :
    StateStep s s' := by
  cases h with
  | stay => exact .stay _
  | local_established => exact .local_established
  | peer_closed => exact .peer_closed _ _
  | peer_closed_more recv_off send_off =>
    -- indications are ORed in, so none is taken back
    exact .peer_closed_more (fun h => by simp [h]) (fun h => by simp [h])
  | killed => exact .killed _

/-- A yielded packet's transition is one of the protocol's. -/
theorem RxStep.state_step {res : Except VsockError PktHdr} {s s' : ConnState} (h : RxStep res s s') :
    StateStep s s' := by
  cases h with
  | stay => exact .stay _
  | peer_established => exact .peer_established
  | local_closed hs => exact local_closed_step hs

/-- The events of `epoll` a connection is polled for. -/
structure EventSet where
  EPOLLIN : Bool
  EPOLLOUT : Bool
  deriving DecidableEq, Repr

def EventSet.is_empty (evset : EventSet) : Bool := !evset.EPOLLIN && !evset.EPOLLOUT

/-- A connection between a guest-side AF_VSOCK socket and a host-side stream. -/
structure VsockConnection where
  state : ConnState
  local_cid : UInt64
  peer_cid : UInt64
  local_port : UInt32
  peer_port : UInt32
  stream : HostStream
  tx_buf : TxBuf
  /-- Total number of bytes written to `stream`, directly or flushed from `tx_buf`. -/
  fwd_cnt : UInt32
  peer_buf_alloc : UInt32
  peer_fwd_cnt : UInt32
  /-- The total number of bytes sent to the peer. -/
  rx_cnt : UInt32
  last_fwd_cnt_to_peer : UInt32
  pending_rx : PendingRxSet
  expiry : Option Nat

namespace VsockConnection

/-- Create a new guest-initiated connection object. -/
def new_peer_init (stream : HostStream) (local_cid peer_cid : UInt64) (local_port peer_port : UInt32)
    (peer_buf_alloc : UInt32) : VsockConnection :=
  ⟨.PeerInit, local_cid, peer_cid, local_port, peer_port, stream, TxBuf.default, 0, peer_buf_alloc,
    0, 0, 0, .from_item .Response, none⟩

/-- Create a new host-initiated connection object. -/
def new_local_init (stream : HostStream) (local_cid peer_cid : UInt64)
    (local_port peer_port : UInt32) : VsockConnection :=
  ⟨.LocalInit, local_cid, peer_cid, local_port, peer_port, stream, TxBuf.default, 0, 0, 0, 0, 0,
    .from_item .Request, none⟩

def will_expire (c : VsockConnection) (now : Nat) : Bool :=
  match c.expiry with
  | none => false
  | some t => t > now

def has_expired (c : VsockConnection) (now : Nat) : Bool :=
  match c.expiry with
  | none => false
  | some t => t ≤ now

/-- Schedule the connection to be forcefully terminated the next time it is asked to yield a
packet. -/
def kill (c : VsockConnection) : VsockConnection :=
  { c with state := .Killed, pending_rx := c.pending_rx.insert .Rst }

def has_pending_rx (c : VsockConnection) : Bool := !c.pending_rx.is_empty

/-- Whether the credit information the peer has last received from us is outdated. -/
def peer_needs_credit_update (c : VsockConnection) : Bool :=
  CONN_TX_BUF_SIZE - (c.fwd_cnt - c.last_fwd_cnt_to_peer) < CONN_CREDIT_UPDATE_THRESHOLD

/-- The maximum number of bytes that we can send to our peer, without overflowing its buffer. -/
def peer_avail_credit (c : VsockConnection) : Nat :=
  (c.peer_buf_alloc - (c.rx_cnt - c.peer_fwd_cnt)).toNat

def need_credit_update_from_peer (c : VsockConnection) : Bool := c.peer_avail_credit == 0

/-- Prepare a packet header for transmission to our peer: zeroed, then the addresses, the type
and our credit. -/
def init_pkt (c : VsockConnection) : PktHdr :=
  ⟨c.local_cid, c.peer_cid, c.local_port, c.peer_port, VSOCK_TYPE_STREAM, 0, 0, 0, CONN_TX_BUF_SIZE,
    c.fwd_cnt⟩

/-- The pushes of `send_bytes` into the TX buffer. -/
def push_tx (c : VsockConnection) (buf : List UInt8) : VsockConnection × Except Error Unit :=
  match c.tx_buf.push buf with
  | .ok tx_buf => ({ c with tx_buf }, .ok ())
  | .error e => (c, .error e)

/-- Send some raw, untracked data straight to the host stream: the number of bytes written, or the
write's error. -/
def send_bytes_raw (c : VsockConnection) (buf : List UInt8) : VsockConnection × Except Error Nat :=
  let (stream, r) := c.stream.write buf
  ({ c with stream }, r.mapError .StreamWrite)

/-- Send some raw data to the host stream: straight, or into the TX buffer what the stream does
not take. -/
def send_bytes (c : VsockConnection) (buf : List UInt8) : VsockConnection × Except Error Unit :=
  -- If there is data in the TX buffer, we are already registered for EPOLLOUT events, and there
  -- is no point in attempting a write.
  if !c.tx_buf.is_empty then c.push_tx buf
  else
    match c.stream.write buf with
    | (stream, .error .Other) => ({ c with stream }, .error (.StreamWrite .Other))
    | (stream, r) =>
      -- Absorb any would-block errors, since we can always try again later.
      let written := match r with
        | .ok n => n
        | .error _ => 0
      -- Move the "forwarded bytes" counter ahead by how much we were able to send out.
      let c := { c with stream, fwd_cnt := c.fwd_cnt + written.toUInt32 }
      -- If we couldn't write the whole slice, we'll need to push the remaining data to our buffer.
      if written < buf.length then c.push_tx (buf.drop written) else (c, .ok ())

/-- The `Rw` arm of `recv_pkt` in a state that lets data flow to the peer: a credit request when
the peer has no room, else a data packet read from the host stream, or nothing (`none`) when the
read would block. -/
def read_data (c : VsockConnection) (pkt : PktHdr) (buf_len : Option Nat) (now : Nat) :
    VsockConnection × Option (Except VsockError PktHdr) :=
  -- Before we start bringing in the big data, can our peer handle receiving so much?
  if c.need_credit_update_from_peer then
    ({ c with last_fwd_cnt_to_peer := c.fwd_cnt }, some (.ok { pkt with op := VSOCK_OP_CREDIT_REQUEST }))
  else
    match buf_len with
    | none => (c, some (.error .PktBufMissing))
    | some buf_len =>
      -- The maximum amount of data we can read in is limited by both the RX buffer size and the
      -- peer available buffer space.
      let max_len := min buf_len c.peer_avail_credit
      match c.stream.read max_len with
      | (stream, .ok read_cnt) =>
        -- A 0-length read means the host stream was closed down.
        let r : VsockConnection × PktHdr :=
          if read_cnt = 0 then
            ({ c with stream, state := .LocalClosed, expiry := some (now + CONN_SHUTDOWN_TIMEOUT_MS) },
              { pkt with op := VSOCK_OP_SHUTDOWN,
                         flags := pkt.flags ||| VSOCK_FLAGS_SHUTDOWN_RCV ||| VSOCK_FLAGS_SHUTDOWN_SEND })
          else ({ c with stream }, { pkt with op := VSOCK_OP_RW, len := read_cnt.toUInt32 })
        ({ r.1 with rx_cnt := r.1.rx_cnt + r.2.len, last_fwd_cnt_to_peer := r.1.fwd_cnt }, some (.ok r.2))
      | (stream, .error .WouldBlock) => ({ c with stream }, none)
      | (stream, .error .Other) =>
        ({ c with stream, last_fwd_cnt_to_peer := c.fwd_cnt }, some (.ok { pkt with op := VSOCK_OP_RST }))

/-- The `Rw` arm of `recv_pkt`. -/
def recv_rw (c : VsockConnection) (pkt : PktHdr) (buf_len : Option Nat) (now : Nat) :
    VsockConnection × Option (Except VsockError PktHdr) :=
  match c.state with
  -- A data packet is only valid for established connections, and connections for which our peer
  -- has initiated a graceful shutdown, but can still receive data.
  | .Established | .PeerClosed false _ => c.read_data pkt buf_len now
  -- Any other connection state is invalid at this point, and we need to kill it with fire.
  | _ => (c, some (.ok { pkt with op := VSOCK_OP_RST }))

/-- The last arm of `recv_pkt`: a credit update is basically a no-op, so it is only yielded when
there is nothing else to say. -/
def recv_credit_update (c : VsockConnection) (pkt : PktHdr) :
    VsockConnection × Except VsockError PktHdr :=
  let credit_update := c.pending_rx.remove .CreditUpdate
  let c := { c with pending_rx := credit_update.2 }
  if credit_update.1 && !c.has_pending_rx then
    ({ c with last_fwd_cnt_to_peer := c.fwd_cnt }, .ok { pkt with op := VSOCK_OP_CREDIT_UPDATE })
  else (c, .error .NoData)

/-- The data arm of `recv_pkt` and what follows it: an `Rw` indication reads from the host stream,
and a read that would block falls through to the credit update. -/
def recv_data (c : VsockConnection) (pkt : PktHdr) (buf_len : Option Nat) (now : Nat) :
    VsockConnection × Except VsockError PktHdr :=
  let rw := c.pending_rx.remove .Rw
  let c := { c with pending_rx := rw.2 }
  match if rw.1 then c.recv_rw pkt buf_len now else (c, none) with
  | (c, some res) => (c, res)
  | (c, none) => c.recv_credit_update pkt

/-- Fill in a vsock packet, to be delivered to our peer, from the pending RX indications in their
order of priority. -/
def recv_pkt (c : VsockConnection) (buf_len : Option Nat) (now : Nat) :
    VsockConnection × Except VsockError PktHdr :=
  let pkt := c.init_pkt
  -- If forceful termination is pending, there's no point in checking for anything else.
  let rst := c.pending_rx.remove .Rst
  let c := { c with pending_rx := rst.2 }
  if rst.1 then (c, .ok { pkt with op := VSOCK_OP_RST })
  else
    -- Next up: if we're due a connection confirmation, that's all we need to know.
    let response := c.pending_rx.remove .Response
    let c := { c with pending_rx := response.2 }
    if response.1 then ({ c with state := .Established }, .ok { pkt with op := VSOCK_OP_RESPONSE })
    else
      -- Same thing goes for locally-initiated connections that need to yield a request.
      let request := c.pending_rx.remove .Request
      let c := { c with pending_rx := request.2 }
      if request.1 then
        ({ c with expiry := some (now + CONN_REQUEST_TIMEOUT_MS) }, .ok { pkt with op := VSOCK_OP_REQUEST })
      else c.recv_data pkt buf_len now

/-- The data of an RW packet from the guest, forwarded to the host stream; a write error kills the
connection. -/
def forward (c : VsockConnection) (buf : List UInt8) : VsockConnection :=
  match c.send_bytes buf with
  -- If we can't write to the host stream, that's an unrecoverable error.
  | (c, .error _) => c.kill
  | (c, .ok ()) =>
    -- We might've just consumed some data: the peer may need a credit update.
    if c.peer_needs_credit_update then { c with pending_rx := c.pending_rx.insert .CreditUpdate }
    else c

/-- The `VSOCK_OP_RW` arm of `send_pkt`. The source slices the buffer to `len`, which the packet
parser guarantees it has. -/
def send_rw (c : VsockConnection) (pkt : TxPkt) : VsockConnection :=
  match pkt.buf with
  -- dropping empty data packet from guest
  | none => c
  | some buf => c.forward (buf.take pkt.len.toNat)

/-- A SHUTDOWN packet: the peer's new indications; when it will neither send nor receive, an RST
now if the TX buffer is drained, else the kill timer (`drain_timer`, only from `Established`). -/
def shutdown (c : VsockConnection) (recv_off send_off : Bool) (now : Nat) (drain_timer : Bool) :
    VsockConnection :=
  let c := { c with state := .PeerClosed recv_off send_off }
  if recv_off && send_off then
    if c.tx_buf.is_empty then { c with pending_rx := c.pending_rx.insert .Rst }
    else if drain_timer then { c with expiry := some (now + CONN_SHUTDOWN_TIMEOUT_MS) }
    else c
  else c

/-- The peer credit information every packet from the guest carries. -/
def update_peer_credit (c : VsockConnection) (pkt : TxPkt) : VsockConnection :=
  { c with peer_buf_alloc := pkt.buf_alloc, peer_fwd_cnt := pkt.fwd_cnt }

/-- Deliver a guest-generated packet to this connection. The arms of the source's `match`, grouped
by state. -/
def send_pkt (c : VsockConnection) (pkt : TxPkt) (now : Nat) : VsockConnection :=
  let c := c.update_peer_credit pkt
  let credit_request := { c with pending_rx := c.pending_rx.insert .CreditUpdate }
  match c.state with
  | .Established =>
    if pkt.op = VSOCK_OP_RW then c.send_rw pkt
    else if pkt.op = VSOCK_OP_SHUTDOWN then
      c.shutdown (pkt.flags &&& VSOCK_FLAGS_SHUTDOWN_RCV != 0)
        (pkt.flags &&& VSOCK_FLAGS_SHUTDOWN_SEND != 0) now true
    else if pkt.op = VSOCK_OP_CREDIT_REQUEST then credit_request
    else c
  | .PeerClosed recv_off send_off =>
    if pkt.op = VSOCK_OP_RW ∧ send_off = false then c.send_rw pkt
    else if pkt.op = VSOCK_OP_SHUTDOWN then
      -- Shutdown indications are ORed in; they cannot be taken back.
      c.shutdown (recv_off || pkt.flags &&& VSOCK_FLAGS_SHUTDOWN_RCV != 0)
        (send_off || pkt.flags &&& VSOCK_FLAGS_SHUTDOWN_SEND != 0) now false
    else if pkt.op = VSOCK_OP_CREDIT_REQUEST ∧ send_off = false then credit_request
    else c
  | .LocalInit =>
    if pkt.op = VSOCK_OP_RESPONSE then { c with expiry := none, state := .Established } else c
  | .PeerInit => if pkt.op = VSOCK_OP_CREDIT_REQUEST then credit_request else c
  | _ => c

/-- The EPOLLOUT half of `notify`: flush the TX buffer to the host stream. A would-block error is
absorbed; any other kills the connection. -/
def flush_tx (c : VsockConnection) : VsockConnection :=
  if c.tx_buf.is_empty then c
  else
    let r := c.tx_buf.flush_to c.stream
    let c := { c with tx_buf := r.1, stream := r.2.1 }
    let c := match r.2.2 with
      | .error (.TxBufFlush .WouldBlock) => c
      | .error _ => c.kill
      | .ok _ => c
    let c := { c with fwd_cnt := c.fwd_cnt + (TxBuf.flushed r.2.2).toUInt32 }
    -- A connection waiting to drain its TX buffer before termination may be done waiting.
    if c.state = .PeerClosed true true ∧ c.tx_buf.is_empty then
      { c with pending_rx := c.pending_rx.insert .Rst }
    else if c.peer_needs_credit_update then { c with pending_rx := c.pending_rx.insert .CreditUpdate }
    else c

/-- Notify the connection about events on the host stream: readable data becomes an `Rw`
indication, and writable space flushes the TX buffer. -/
def notify (c : VsockConnection) (evset : EventSet) : VsockConnection :=
  let c := if evset.EPOLLIN then { c with pending_rx := c.pending_rx.insert .Rw } else c
  if evset.EPOLLOUT then c.flush_tx else c

/-- The events the connection wants to be polled for. -/
def get_polled_evset (c : VsockConnection) : EventSet :=
  ⟨match c.state with
    | .Killed | .LocalClosed | .PeerClosed true _ => false
    | _ => !c.need_credit_update_from_peer,
   !c.tx_buf.is_empty⟩

end VsockConnection

end KataContainers.Dragonball.Vsock.Csm
