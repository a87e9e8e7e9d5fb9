import KataContainers.Dragonball.Vsock.Connection

/-!
# What each operation of a vsock connection does

The lemmas about `VsockConnection` (`Vsock/Connection.lean`) that the invariants of
`Vsock/ConnectionRuns.lean` are built from, one group per operation, so that those never unfold
one:
* the data path: `Carries c acc` says the host stream took a prefix of the bytes `acc` accepted
  from the guest and the TX buffer holds the rest, with `fwd_cnt` counting what the stream took;
  `send_bytes_ok`, `forward_carries`, `flush_tx_carries`, `notify_carries` and `send_pkt_carries`
  say how the operations move it, and `send_bytes_error` and `send_pkt_killed` when they fail;
* the state, the pending indications and the other fields: `send_pkt_cases`, `notify_frame` and
  `recv_pkt_frame`, with the transitions `TxStep` and `RxStep` of the packets behind them, and
  `Grows` for the indications that only grow;
* the guest's credit: `InCredit`, `recv_pkt_rx_cnt`, `recv_pkt_in_credit` and
  `recv_pkt_credit_request`;
* clean pending sets: every operation keeps one clean, and `recv_pkt_error_rw` says what a failed
  `recv_pkt` that leaves indications behind has consumed.
-/

namespace KataContainers.Dragonball.Vsock.Csm

namespace VsockConnection

variable {c : VsockConnection} {acc buf : List UInt8}

theorem toNat_add_toUInt32 (a : UInt32) (n : Nat) : (a + n.toUInt32).toNat = (a.toNat + n) % 2 ^ 32 := by
  simp [UInt32.toNat_add, Nat.toUInt32_eq, UInt32.toNat_ofNat']

/-- The connection carries the bytes `acc` accepted from the guest: the host stream has taken a
prefix of them, the TX buffer holds the rest, and `fwd_cnt` counts, modulo `2 ^ 32`, what the
stream took. -/
structure Carries (c : VsockConnection) (acc : List UInt8) : Prop where
  taken_prefix : c.stream.taken <+: acc
  buffered : c.tx_buf.Holds (acc.drop c.stream.taken.length)
  fwd_cnt_eq : c.fwd_cnt.toNat = c.stream.taken.length % 2 ^ 32

/-- What carries the bytes is the stream's log, the buffer and the counter. -/
theorem Carries.of_eq {c' : VsockConnection} (h : c.Carries acc)
    (hs : c'.stream.taken = c.stream.taken) (ht : c'.tx_buf = c.tx_buf) (hf : c'.fwd_cnt = c.fwd_cnt) :
    c'.Carries acc := by
  obtain ⟨h₁, h₂, h₃⟩ := h
  exact ⟨hs ▸ h₁, by rw [hs, ht]; exact h₂, by rw [hs, hf]; exact h₃⟩

/-- A new connection carries nothing. -/
theorem carries_nil {c : VsockConnection} (hs : c.stream.taken = []) (ht : c.tx_buf = TxBuf.default)
    (hf : c.fwd_cnt = 0) : c.Carries [] :=
  ⟨by simp [hs], by rw [ht, hs]; exact TxBuf.default_holds, by simp [hs, hf]⟩

/-- With the buffer empty, the stream took all the bytes. -/
theorem Carries.taken_eq (h : c.Carries acc) (he : c.tx_buf.is_empty = true) : c.stream.taken = acc := by
  have hnil := (h.buffered.is_empty_iff).mp he
  have hle := h.taken_prefix.length_le
  exact h.taken_prefix.eq_of_length (by simp at hnil; omega)

/-- The stream takes the first `n` bytes of `buf` straight, with nothing buffered. -/
theorem Carries.write (h : c.Carries acc) (he : c.tx_buf.is_empty = true) {stream : HostStream}
    {n : Nat} (hn : n ≤ buf.length) (hs : stream.taken = c.stream.taken ++ buf.take n) :
    { c with stream, fwd_cnt := c.fwd_cnt + n.toUInt32 }.Carries (acc ++ buf.take n) := by
  have hacc := h.taken_eq he
  have hlen : (buf.take n).length = n := by simp [hn]
  refine ⟨by simp [hs, hacc], ?_, ?_⟩
  · have hnil := (h.buffered.is_empty_iff).mp he
    simpa [hs, hacc, hlen] using h.buffered
  · simp only [toNat_add_toUInt32, h.fwd_cnt_eq, hs, List.length_append, Nat.mod_add_mod, hlen]

/-- A push that succeeds appends the bytes to the ones buffered. -/
theorem Carries.push (h : c.Carries acc) {tx_buf : TxBuf} (hp : c.tx_buf.push buf = .ok tx_buf) :
    { c with tx_buf }.Carries (acc ++ buf) := by
  have hfit : (acc.drop c.stream.taken.length).length + buf.length ≤ TxBuf.SIZE := by
    by_contra hfull
    rw [TxBuf.push_full h.buffered (by omega)] at hp
    cases hp
  obtain ⟨b', hb', hholds⟩ := TxBuf.push_ok h.buffered hfit
  rw [hp] at hb'
  cases hb'
  refine ⟨h.taken_prefix.trans (List.prefix_append _ _), ?_, h.fwd_cnt_eq⟩
  rw [List.drop_append_of_le_length h.taken_prefix.length_le]
  exact hholds

theorem push_tx_ok (h : c.Carries acc) (hok : (c.push_tx buf).2 = .ok ()) :
    (c.push_tx buf).1.Carries (acc ++ buf) := by
  unfold push_tx at hok ⊢
  split at hok
  · rename_i tx_buf hp
    exact h.push hp
  · cases hok

/-- A push that fails changes nothing, and fails because the bytes do not fit. -/
theorem push_tx_error {e : Error} (h : c.Carries acc) (he : (c.push_tx buf).2 = .error e) :
    (c.push_tx buf).1 = c ∧ e = .TxBufFull ∧
      TxBuf.SIZE < acc.length - c.stream.taken.length + buf.length := by
  unfold push_tx at he ⊢
  split at he
  · cases he
  · rename_i e' hp
    cases he
    refine ⟨rfl, TxBuf.push_error hp, ?_⟩
    by_contra hfull
    have hfit : (acc.drop c.stream.taken.length).length + buf.length ≤ TxBuf.SIZE := by
      simp only [List.length_drop]
      omega
    obtain ⟨b', hb', -⟩ := TxBuf.push_ok h.buffered hfit
    rw [hp] at hb'
    cases hb'

theorem push_tx_frame (c : VsockConnection) (buf : List UInt8) :
    ∃ tx_buf, (c.push_tx buf).1 = { c with tx_buf } := by
  unfold push_tx
  split
  · exact ⟨_, rfl⟩
  · exact ⟨c.tx_buf, rfl⟩


/-- What `send_bytes` does: with bytes already buffered it pushes behind them; otherwise the
stream fails, or takes the first `n` bytes (none when it would block) and the rest is pushed. -/
theorem send_bytes_cases (c : VsockConnection) (buf : List UInt8) :
    (c.tx_buf.is_empty = false ∧ c.send_bytes buf = c.push_tx buf) ∨
    (c.tx_buf.is_empty = true ∧ c.stream.writes.head? = some .error ∧
      (c.stream.write buf).1.taken = c.stream.taken ∧
      c.send_bytes buf = ({ c with stream := (c.stream.write buf).1 }, .error (.StreamWrite .Other))) ∨
    (c.tx_buf.is_empty = true ∧ ∃ n, n ≤ buf.length ∧
      (c.stream.write buf).1.taken = c.stream.taken ++ buf.take n ∧
      c.send_bytes buf =
        if n < buf.length then
          { c with stream := (c.stream.write buf).1, fwd_cnt := c.fwd_cnt + n.toUInt32 }.push_tx (buf.drop n)
        else ({ c with stream := (c.stream.write buf).1, fwd_cnt := c.fwd_cnt + n.toUInt32 }, .ok ())) := by
  unfold send_bytes
  cases he : c.tx_buf.is_empty
  · exact .inl ⟨rfl, rfl⟩
  right
  simp only [Bool.not_true, Bool.false_eq_true, if_false]
  rcases hw : c.stream.write buf with ⟨stream, (_ | _) | n⟩
  · -- a write that would block takes nothing
    have hs := HostStream.write_error (congrArg Prod.snd hw)
    rw [hw] at hs
    exact .inr ⟨trivial, 0, Nat.zero_le _, by simpa using hs, rfl⟩
  · have hs := HostStream.write_error (congrArg Prod.snd hw)
    rw [hw] at hs
    exact .inl ⟨trivial, HostStream.write_other (by rw [hw]), hs, rfl⟩
  · obtain ⟨hn, hs⟩ := HostStream.write_ok (congrArg Prod.snd hw)
    rw [hw] at hs
    exact .inr ⟨trivial, n, hn, hs, rfl⟩

/-- A `send_bytes` that succeeds carries the bytes on, straight or in the buffer. -/
theorem send_bytes_ok (h : c.Carries acc) (hok : (c.send_bytes buf).2 = .ok ()) :
    (c.send_bytes buf).1.Carries (acc ++ buf) := by
  rcases send_bytes_cases c buf with ⟨-, heq⟩ | ⟨-, -, -, heq⟩ | ⟨he, n, hn, hs, heq⟩
  · rw [heq] at hok ⊢
    exact push_tx_ok h hok
  · rw [heq] at hok
    cases hok
  · have hc := h.write he hn hs
    rw [heq] at hok ⊢
    split_ifs at hok ⊢ with hlt
    · have := push_tx_ok hc hok
      rwa [List.append_assoc, List.take_append_drop] at this
    · rwa [List.take_of_length_le (by omega)] at hc

/-- A `send_bytes` fails because the bytes left do not fit in the buffer, or because the stream
failed. -/
theorem send_bytes_error {e : Error} (h : c.Carries acc) (he : (c.send_bytes buf).2 = .error e) :
    (e = .TxBufFull ∧ TxBuf.SIZE < acc.length - c.stream.taken.length + buf.length) ∨
      (e = .StreamWrite .Other ∧ c.stream.writes.head? = some .error) := by
  rcases send_bytes_cases c buf with ⟨-, heq⟩ | ⟨-, hhead, -, heq⟩ | ⟨he', n, hn, hs, heq⟩
  · rw [heq] at he
    obtain ⟨-, he, hfull⟩ := push_tx_error h he
    exact .inl ⟨he, hfull⟩
  · rw [heq] at he
    cases he
    exact .inr ⟨rfl, hhead⟩
  · have hc := h.write he' hn hs
    rw [heq] at he
    -- a `send_bytes` that pushes nothing cannot fail
    split_ifs at he with hlt
    obtain ⟨-, he, hfull⟩ := push_tx_error hc he
    refine .inl ⟨he, ?_⟩
    simp only [List.length_append, List.length_take, List.length_drop, hs] at hfull
    omega

/-- `send_bytes` only ever adds to what the stream took. -/
theorem send_bytes_taken (c : VsockConnection) (buf : List UInt8) :
    c.stream.taken <+: (c.send_bytes buf).1.stream.taken := by
  rcases send_bytes_cases c buf with ⟨-, heq⟩ | ⟨-, -, hs, heq⟩ | ⟨-, n, -, hs, heq⟩
  · obtain ⟨tx_buf, hf⟩ := push_tx_frame c buf
    simp only [heq, hf, List.prefix_refl]
  · rw [heq]
    exact hs ▸ List.prefix_refl _
  · rw [heq]
    split_ifs
    · obtain ⟨tx_buf, hf⟩ := push_tx_frame { c with stream := (c.stream.write buf).1, fwd_cnt := c.fwd_cnt + n.toUInt32 } (buf.drop n)
      rw [hf]
      exact hs ▸ List.prefix_append _ _
    · exact hs ▸ List.prefix_append _ _

/-- `send_bytes_raw` touches the stream only. -/
theorem send_bytes_raw_frame (c : VsockConnection) (buf : List UInt8) :
    (c.send_bytes_raw buf).1 = { c with stream := (c.stream.write buf).1 } := rfl

/-- `send_bytes` touches the stream, the counter and the buffer only. -/
theorem send_bytes_frame (c : VsockConnection) (buf : List UInt8) :
    ∃ stream fwd_cnt tx_buf, (c.send_bytes buf).1 = { c with stream, fwd_cnt, tx_buf } := by
  rcases send_bytes_cases c buf with ⟨-, heq⟩ | ⟨-, -, -, heq⟩ | ⟨-, n, -, -, heq⟩
  · obtain ⟨tx_buf, hf⟩ := push_tx_frame c buf
    exact ⟨c.stream, c.fwd_cnt, tx_buf, by rw [heq, hf]⟩
  · exact ⟨_, c.fwd_cnt, c.tx_buf, by rw [heq]⟩
  · rw [heq]
    split_ifs
    · obtain ⟨tx_buf, hf⟩ := push_tx_frame { c with stream := (c.stream.write buf).1, fwd_cnt := c.fwd_cnt + n.toUInt32 } (buf.drop n)
      exact ⟨_, _, tx_buf, hf⟩
    · exact ⟨_, _, c.tx_buf, rfl⟩


theorem kill_pending : c.pending_rx.Grows c.kill.pending_rx :=
  PendingRxSet.grows_insert _ (by decide)

/-- What `forward` does: a failed `send_bytes` kills the connection, a successful one may ask for
a credit update. -/
theorem forward_cases (c : VsockConnection) (buf : List UInt8) :
    ((c.send_bytes buf).2 = .ok () ∧ ∃ pending_rx, c.forward buf = { (c.send_bytes buf).1 with pending_rx } ∧
      (c.send_bytes buf).1.pending_rx.Grows pending_rx) ∨
    ((∃ e, (c.send_bytes buf).2 = .error e) ∧ c.forward buf = (c.send_bytes buf).1.kill) := by
  unfold forward
  rcases hs : c.send_bytes buf with ⟨c', _ | ⟨⟩⟩
  · exact .inr ⟨⟨_, rfl⟩, rfl⟩
  · refine .inl ⟨rfl, ?_⟩
    dsimp only
    split_ifs
    · exact ⟨_, rfl, PendingRxSet.grows_insert _ (by decide)⟩
    · exact ⟨c'.pending_rx, rfl, PendingRxSet.Grows.refl _⟩

theorem forward_frame (c : VsockConnection) (buf : List UInt8) :
    ∃ state stream fwd_cnt tx_buf pending_rx,
      c.forward buf = { c with state, stream, fwd_cnt, tx_buf, pending_rx } ∧
      (state = c.state ∨ state = .Killed ∧ pending_rx.contains .Rst = true) ∧
      c.pending_rx.Grows pending_rx := by
  obtain ⟨stream, fwd_cnt, tx_buf, hf⟩ := send_bytes_frame c buf
  rcases forward_cases c buf with ⟨-, pending_rx, heq, hg⟩ | ⟨-, heq⟩
  · rw [hf] at heq hg
    exact ⟨_, _, _, _, _, heq, .inl rfl, hg⟩
  · rw [hf] at heq
    exact ⟨_, _, _, _, _, heq, .inr ⟨rfl, by simp⟩, kill_pending⟩

/-- `forward` carries the bytes on, unless it kills the connection. -/
theorem forward_carries (h : c.Carries acc) :
    (c.forward buf).Carries (acc ++ buf) ∨ (c.forward buf).state = .Killed := by
  rcases forward_cases c buf with ⟨hok, pending_rx, heq, -⟩ | ⟨-, heq⟩
  · rw [heq]
    exact .inl ((send_bytes_ok h hok).of_eq rfl rfl rfl)
  · rw [heq]
    exact .inr rfl

theorem forward_taken (c : VsockConnection) (buf : List UInt8) :
    c.stream.taken <+: (c.forward buf).stream.taken := by
  rcases forward_cases c buf with ⟨-, pending_rx, heq, -⟩ | ⟨-, heq⟩ <;>
  · rw [heq]
    exact send_bytes_taken c buf

/-- `forward` kills only on a stream error, or when the bytes do not fit in the buffer. -/
theorem forward_killed (h : c.Carries acc) (hk : (c.forward buf).state = .Killed) :
    c.state = .Killed ∨ TxBuf.SIZE < acc.length - c.stream.taken.length + buf.length ∨
      c.stream.writes.head? = some .error := by
  obtain ⟨stream, fwd_cnt, tx_buf, hf⟩ := send_bytes_frame c buf
  rcases forward_cases c buf with ⟨-, pending_rx, heq, -⟩ | ⟨⟨e, he⟩, -⟩
  · rw [heq, hf] at hk
    exact .inl hk
  · rcases send_bytes_error h he with ⟨-, hfull⟩ | ⟨-, hhead⟩
    · exact .inr (.inl hfull)
    · exact .inr (.inr hhead)


/-- The payload `send_pkt` takes in from an RW packet: one with a buffer, in a state in which the
guest may still send. -/
def rw_payload (c : VsockConnection) (pkt : TxPkt) : Option (List UInt8) :=
  if pkt.op = VSOCK_OP_RW then
    match c.state, pkt.buf with
    | .Established, some buf | .PeerClosed _ false, some buf => some (buf.take pkt.len.toNat)
    | _, _ => none
  else none

/-- Nothing is taken in before the host confirms the connection, or once it is killed. -/
theorem rw_payload_eq_none {pkt : TxPkt} (h : c.state = .PeerInit ∨ c.state = .Killed) :
    c.rw_payload pkt = none := by
  unfold rw_payload
  rcases h with h | h <;> rw [h] <;> split_ifs <;> cases pkt.buf <;> rfl

theorem shutdown_frame (c : VsockConnection) (recv_off send_off : Bool) (now : Nat) (drain_timer : Bool) :
    ∃ pending_rx expiry, c.shutdown recv_off send_off now drain_timer =
      { c with state := .PeerClosed recv_off send_off, pending_rx, expiry } ∧ c.pending_rx.Grows pending_rx := by
  unfold shutdown
  dsimp only
  split_ifs
  · exact ⟨_, c.expiry, rfl, PendingRxSet.grows_insert _ (by decide)⟩
  · exact ⟨c.pending_rx, _, rfl, .refl _⟩
  all_goals exact ⟨c.pending_rx, c.expiry, rfl, .refl _⟩

/-- The payload is taken in from RW packets only. -/
theorem rw_payload_op {pkt : TxPkt} {p : List UInt8} (h : c.rw_payload pkt = some p) :
    pkt.op = VSOCK_OP_RW := by
  unfold rw_payload at h
  split_ifs at h with hop
  · exact hop

/-- What `send_pkt` does: the payload of an RW packet it takes in is forwarded; any other packet
moves the state along a transition of its op that is no kill, and adds indications. -/
theorem send_pkt_cases (c : VsockConnection) (pkt : TxPkt) (now : Nat) :
    (∃ p, c.rw_payload pkt = some p ∧ c.send_pkt pkt now = (c.update_peer_credit pkt).forward p) ∨
    (c.rw_payload pkt = none ∧ ∃ state pending_rx expiry,
      c.send_pkt pkt now = { c.update_peer_credit pkt with state, pending_rx, expiry } ∧
      TxStep pkt c.state state ∧ (state = .Killed → c.state = .Killed) ∧
      c.pending_rx.Grows pending_rx) := by
  -- what the arms do besides forwarding: stay, or ask for a credit update
  have stay : ∃ state pending_rx expiry,
      c.update_peer_credit pkt = { c.update_peer_credit pkt with state, pending_rx, expiry } ∧
      TxStep pkt c.state state ∧ (state = .Killed → c.state = .Killed) ∧
      c.pending_rx.Grows pending_rx :=
    ⟨c.state, c.pending_rx, c.expiry, rfl, .stay _, id, .refl _⟩
  have credit : ∃ state pending_rx expiry,
      { c.update_peer_credit pkt with
          pending_rx := (c.update_peer_credit pkt).pending_rx.insert .CreditUpdate } =
        { c.update_peer_credit pkt with state, pending_rx, expiry } ∧
      TxStep pkt c.state state ∧ (state = .Killed → c.state = .Killed) ∧
      c.pending_rx.Grows pending_rx :=
    ⟨c.state, _, c.expiry, rfl, .stay _, id, PendingRxSet.grows_insert _ (by decide)⟩
  unfold send_pkt send_rw
  dsimp only
  split
  next hs =>
    have hs' : c.state = .Established := hs
    split_ifs with hrw hsd hcr
    · split
      next hb => exact .inr ⟨by simp [rw_payload, hs', hrw, hb], stay⟩
      next buf hb => exact .inl ⟨_, by simp [rw_payload, hs', hrw, hb], rfl⟩
    · refine .inr ⟨by simp [rw_payload, hrw], ?_⟩
      obtain ⟨pending_rx, expiry, heq, hg⟩ := shutdown_frame (c.update_peer_credit pkt)
        (pkt.flags &&& VSOCK_FLAGS_SHUTDOWN_RCV != 0) (pkt.flags &&& VSOCK_FLAGS_SHUTDOWN_SEND != 0) now true
      exact ⟨_, pending_rx, expiry, heq, hs' ▸ .peer_closed hsd, by simp, hg⟩
    · exact .inr ⟨by simp [rw_payload, hrw], credit⟩
    · exact .inr ⟨by simp [rw_payload, hrw], stay⟩
  next recv_off send_off hs =>
    have hs' : c.state = .PeerClosed recv_off send_off := hs
    split_ifs with hrw hsd hcr
    · obtain ⟨hop, hso⟩ := hrw
      split
      next hb => exact .inr ⟨by simp [rw_payload, hs', hop, hso, hb], stay⟩
      next buf hb => exact .inl ⟨_, by simp [rw_payload, hs', hop, hso, hb], rfl⟩
    · have nopay : c.rw_payload pkt = none := by
        unfold rw_payload
        rw [if_neg (by rw [hsd]; decide)]
      refine .inr ⟨nopay, ?_⟩
      obtain ⟨pending_rx, expiry, heq, hg⟩ := shutdown_frame (c.update_peer_credit pkt)
        (recv_off || pkt.flags &&& VSOCK_FLAGS_SHUTDOWN_RCV != 0)
        (send_off || pkt.flags &&& VSOCK_FLAGS_SHUTDOWN_SEND != 0) now false
      exact ⟨_, pending_rx, expiry, heq, hs' ▸ .peer_closed_more _ _ hsd, by simp, hg⟩
    · have nopay : c.rw_payload pkt = none := by
        unfold rw_payload
        rw [if_neg (by rw [hcr.1]; decide)]
      exact .inr ⟨nopay, credit⟩
    · have nopay : c.rw_payload pkt = none := by
        unfold rw_payload
        split_ifs with hop
        · rw [hs']
          have hso : send_off = true := by simpa [hop] using hrw
          subst hso
          cases pkt.buf <;> rfl
        · rfl
      exact .inr ⟨nopay, stay⟩
  next hs =>
    refine .inr ⟨by simp [rw_payload, show c.state = .LocalInit from hs], ?_⟩
    split_ifs with hresp
    · exact ⟨.Established, c.pending_rx, none, rfl, hs ▸ .local_established hresp, by simp, .refl _⟩
    · exact stay
  next hs =>
    refine .inr ⟨by simp [rw_payload, show c.state = .PeerInit from hs], ?_⟩
    split_ifs
    · exact credit
    · exact stay
  next _ hE hP _ _ =>
    have nopay : c.rw_payload pkt = none := by
      unfold rw_payload
      split_ifs
      · split
        next buf hs _ => exact (hE hs).elim
        next buf hs _ => exact (hP _ _ hs).elim
        next => rfl
      · rfl
    exact .inr ⟨nopay, stay⟩

theorem Carries.update_peer_credit {pkt : TxPkt} (h : c.Carries acc) :
    (c.update_peer_credit pkt).Carries acc :=
  h.of_eq rfl rfl rfl

/-- The guest moves the connection state only along the transitions of its packet's op. -/
theorem send_pkt_step (c : VsockConnection) (pkt : TxPkt) (now : Nat) :
    TxStep pkt c.state (c.send_pkt pkt now).state := by
  rcases send_pkt_cases c pkt now with ⟨p, hp, heq⟩ | ⟨-, state, pending_rx, expiry, heq, hstep, -, -⟩
  · -- forwarding RW data keeps the state, or kills the connection
    obtain ⟨state, stream, fwd_cnt, tx_buf, pending_rx, hf, hs, -⟩ :=
      forward_frame (c.update_peer_credit pkt) p
    rw [heq, hf]
    rcases hs with hs | ⟨hs, -⟩
    · exact hs ▸ .stay _
    · exact hs ▸ .killed _ (rw_payload_op hp)
  · rw [heq]
    exact hstep

theorem send_pkt_pending (c : VsockConnection) (pkt : TxPkt) (now : Nat) :
    c.pending_rx.Grows (c.send_pkt pkt now).pending_rx := by
  rcases send_pkt_cases c pkt now with ⟨p, -, heq⟩ | ⟨-, state, pending_rx, expiry, heq, -, -, hg⟩
  · obtain ⟨state, stream, fwd_cnt, tx_buf, pending_rx, hf, -, hg⟩ :=
      forward_frame (c.update_peer_credit pkt) p
    rw [heq, hf]
    exact hg
  · rw [heq]
    exact hg

theorem send_pkt_taken (c : VsockConnection) (pkt : TxPkt) (now : Nat) :
    c.stream.taken <+: (c.send_pkt pkt now).stream.taken := by
  rcases send_pkt_cases c pkt now with ⟨p, -, heq⟩ | ⟨-, state, pending_rx, expiry, heq, -⟩
  · rw [heq]
    exact forward_taken (c.update_peer_credit pkt) p
  · rw [heq]
    exact List.prefix_refl _

/-- The guest's packets set its credit, and leave ours alone. -/
theorem send_pkt_credit (c : VsockConnection) (pkt : TxPkt) (now : Nat) :
    (c.send_pkt pkt now).rx_cnt = c.rx_cnt ∧ (c.send_pkt pkt now).peer_buf_alloc = pkt.buf_alloc ∧
      (c.send_pkt pkt now).peer_fwd_cnt = pkt.fwd_cnt := by
  rcases send_pkt_cases c pkt now with ⟨p, -, heq⟩ | ⟨-, state, pending_rx, expiry, heq, -⟩
  · obtain ⟨state, stream, fwd_cnt, tx_buf, pending_rx, hf, -⟩ :=
      forward_frame (c.update_peer_credit pkt) p
    rw [heq, hf]
    exact ⟨rfl, rfl, rfl⟩
  · rw [heq]
    exact ⟨rfl, rfl, rfl⟩

/-- `send_pkt` carries the payload it takes in on, unless forwarding it kills the connection. -/
theorem send_pkt_carries (pkt : TxPkt) (now : Nat) (h : c.Carries acc) :
    (c.send_pkt pkt now).Carries (acc ++ (c.rw_payload pkt).getD []) ∨
      ((c.send_pkt pkt now).state = .Killed ∧ c.rw_payload pkt ≠ none) := by
  rcases send_pkt_cases c pkt now with ⟨p, hp, heq⟩ | ⟨hp, state, pending_rx, expiry, heq, -⟩
  · rw [heq, hp]
    rcases forward_carries h.update_peer_credit with hc | hk
    · exact .inl hc
    · exact .inr ⟨hk, by simp⟩
  · rw [heq, hp, Option.getD_none, List.append_nil]
    exact .inl (h.of_eq rfl rfl rfl)

/-- `send_pkt` kills a live connection only when forwarding a payload fails: the stream failed,
or the payload did not fit in the buffer. -/
theorem send_pkt_killed {pkt : TxPkt} {now : Nat} (h : c.Carries acc)
    (hk : (c.send_pkt pkt now).state = .Killed) :
    c.state = .Killed ∨ ∃ p, c.rw_payload pkt = some p ∧
      (TxBuf.SIZE < acc.length - c.stream.taken.length + p.length ∨
        c.stream.writes.head? = some .error) := by
  rcases send_pkt_cases c pkt now with ⟨p, hp, heq⟩ | ⟨-, state, pending_rx, expiry, heq, -, hkill, -⟩
  · rw [heq] at hk
    rcases forward_killed h.update_peer_credit hk with hs | hfail
    · exact .inl hs
    · exact .inr ⟨p, hp, hfail⟩
  · rw [heq] at hk
    exact .inl (hkill hk)

/-- A `send_pkt` that kills the connection leaves an RST pending. -/
theorem send_pkt_killed_rst {pkt : TxPkt} {now : Nat} (hk : (c.send_pkt pkt now).state = .Killed) :
    c.state = .Killed ∨ (c.send_pkt pkt now).pending_rx.contains .Rst = true := by
  rcases send_pkt_cases c pkt now with ⟨p, -, heq⟩ | ⟨-, state, pending_rx, expiry, heq, -, hkill, -⟩
  · obtain ⟨state, stream, fwd_cnt, tx_buf, pending_rx, hf, hs, -⟩ :=
      forward_frame (c.update_peer_credit pkt) p
    rw [heq, hf] at hk ⊢
    rcases hs with hs | ⟨-, hrst⟩
    · exact .inl (hs ▸ hk)
    · exact .inr hrst
  · rw [heq] at hk
    exact .inl (hkill hk)

/-- The guest cannot move a connection the host has not confirmed yet, or a killed one. -/
theorem send_pkt_state_eq (pkt : TxPkt) (now : Nat) (h : c.state = .PeerInit ∨ c.state = .Killed) :
    (c.send_pkt pkt now).state = c.state := by
  rcases h with h | h <;> simp only [send_pkt, update_peer_credit, h]
  split_ifs <;> rfl

/-- What `flush_tx` does to the data path: the stream takes the first `n` bytes held, the buffer
keeps the rest, and the counter moves by `n`. -/
theorem flush_tx_data {xs : List UInt8} (h : c.tx_buf.Holds xs) :
    ∃ n, n ≤ xs.length ∧ c.flush_tx.stream.taken = c.stream.taken ++ xs.take n ∧
      c.flush_tx.tx_buf.Holds (xs.drop n) ∧ c.flush_tx.fwd_cnt = c.fwd_cnt + n.toUInt32 := by
  unfold flush_tx
  split_ifs with he
  · exact ⟨0, Nat.zero_le _, by simp, by simpa using h, by simp⟩
  obtain ⟨h₁, h₂, h₃, -⟩ := TxBuf.flush_to_spec h c.stream
  refine ⟨_, h₃, ?_⟩
  dsimp only
  split <;> split_ifs <;> exact ⟨h₂, h₁, rfl⟩

/-- `flush_tx` touches the data path, and may kill the connection or add an `Rst` or a
`CreditUpdate` indication. -/
theorem flush_tx_frame (c : VsockConnection) : ∃ state tx_buf stream fwd_cnt pending_rx,
    c.flush_tx = { c with state, tx_buf, stream, fwd_cnt, pending_rx } ∧
      (state = c.state ∨ state = .Killed ∧ pending_rx.contains .Rst = true) ∧
      c.pending_rx.Grows pending_rx := by
  unfold flush_tx
  split_ifs with he
  · exact ⟨c.state, c.tx_buf, c.stream, c.fwd_cnt, c.pending_rx, rfl, .inl rfl, .refl _⟩
  dsimp only
  -- three outcomes of the flush, each followed by an `Rst`, a `CreditUpdate` or nothing
  split <;> split_ifs
  all_goals refine ⟨_, _, _, _, _, rfl, by first | exact .inl rfl | exact .inr ⟨rfl, by simp [kill]⟩, ?_⟩
  all_goals first
    | exact .refl _
    | exact PendingRxSet.grows_insert _ (by decide)
    | exact (PendingRxSet.grows_insert _ (by decide)).trans (PendingRxSet.grows_insert _ (by decide))

/-- A flush keeps the bytes carried: the stream takes some from the front of the buffer. -/
theorem flush_tx_carries (h : c.Carries acc) :
    c.flush_tx.Carries acc ∧ c.stream.taken <+: c.flush_tx.stream.taken := by
  obtain ⟨n, hn, hs, hb, hf⟩ := flush_tx_data h.buffered
  obtain ⟨rest, hrest⟩ := h.taken_prefix
  have hdrop : acc.drop c.stream.taken.length = rest := by simp [← hrest]
  rw [hdrop] at hn hs hb
  have hlen : c.flush_tx.stream.taken.length = c.stream.taken.length + n := by
    rw [hs, List.length_append, List.length_take, Nat.min_eq_left hn]
  refine ⟨⟨?_, ?_, ?_⟩, hs ▸ List.prefix_append _ _⟩
  · rw [hs, ← hrest]
    exact (List.prefix_append_right_inj _).mpr (List.take_prefix _ _)
  · rw [hlen, ← hrest]
    simpa using hb
  · rw [hf, toNat_add_toUInt32, h.fwd_cnt_eq, hlen, Nat.mod_add_mod]

/-- What `notify` does: an `Rw` indication, then a flush if the stream is writable. -/
theorem notify_cases (c : VsockConnection) (evset : EventSet) :
    ∃ pending_rx, c.pending_rx.Grows pending_rx ∧
      (c.notify evset = { c with pending_rx } ∨
        evset.EPOLLOUT = true ∧ c.notify evset = { c with pending_rx }.flush_tx) := by
  unfold notify
  split_ifs with hin hout hout
  · exact ⟨_, PendingRxSet.grows_insert _ (by decide), .inr ⟨hout, rfl⟩⟩
  · exact ⟨_, PendingRxSet.grows_insert _ (by decide), .inl rfl⟩
  · exact ⟨c.pending_rx, .refl _, .inr ⟨hout, rfl⟩⟩
  · exact ⟨c.pending_rx, .refl _, .inl rfl⟩

theorem notify_frame (c : VsockConnection) (evset : EventSet) : ∃ state tx_buf stream fwd_cnt pending_rx,
    c.notify evset = { c with state, tx_buf, stream, fwd_cnt, pending_rx } ∧
      (state = c.state ∨
        state = .Killed ∧ pending_rx.contains .Rst = true ∧ evset.EPOLLOUT = true) ∧
      c.pending_rx.Grows pending_rx := by
  obtain ⟨pending_rx, hg, heq | ⟨hout, heq⟩⟩ := notify_cases c evset
  · exact ⟨c.state, c.tx_buf, c.stream, c.fwd_cnt, pending_rx, heq, .inl rfl, hg⟩
  · obtain ⟨state, tx_buf, stream, fwd_cnt, pending_rx', hf, hs, hg'⟩ :=
      flush_tx_frame { c with pending_rx }
    rw [heq, hf]
    refine ⟨_, _, _, _, _, rfl, ?_, hg.trans hg'⟩
    rcases hs with hs | ⟨hs, hrst⟩
    · exact .inl hs
    · exact .inr ⟨hs, hrst, hout⟩

/-- A notification keeps the bytes carried, and adds to what the stream took. -/
theorem notify_carries (evset : EventSet) (h : c.Carries acc) :
    (c.notify evset).Carries acc ∧ c.stream.taken <+: (c.notify evset).stream.taken := by
  obtain ⟨pending_rx, -, heq | ⟨-, heq⟩⟩ := notify_cases c evset
  · rw [heq]
    exact ⟨h.of_eq rfl rfl rfl, List.prefix_refl _⟩
  · rw [heq]
    exact flush_tx_carries (h.of_eq rfl rfl rfl)

theorem read_data_frame (c : VsockConnection) (pkt : PktHdr) (buf_len : Option Nat) (now : Nat) :
    ∃ state stream rx_cnt last_fwd_cnt_to_peer expiry,
      (c.read_data pkt buf_len now).1 = { c with state, stream, rx_cnt, last_fwd_cnt_to_peer, expiry } ∧
      stream.taken = c.stream.taken ∧
      (state = c.state ∨ state = .LocalClosed ∧
        ∃ p, (c.read_data pkt buf_len now).2 = some (.ok p) ∧ p.op = VSOCK_OP_SHUTDOWN) := by
  unfold read_data
  split_ifs
  · exact ⟨c.state, c.stream, c.rx_cnt, _, c.expiry, rfl, rfl, .inl rfl⟩
  split
  · exact ⟨c.state, c.stream, c.rx_cnt, c.last_fwd_cnt_to_peer, c.expiry, rfl, rfl, .inl rfl⟩
  rename_i buf_len
  dsimp only
  -- a read takes nothing from the stream's log
  have ht := @HostStream.read_taken c.stream (min buf_len c.peer_avail_credit)
  split
  · rename_i stream read_cnt hr
    rw [hr] at ht
    split_ifs
    · -- the stream's end: the connection closes and the guest is told so
      exact ⟨.LocalClosed, stream, _, _, _, rfl, ht, .inr ⟨rfl, _, rfl, rfl⟩⟩
    · exact ⟨c.state, stream, _, _, c.expiry, rfl, ht, .inl rfl⟩
  · rename_i stream hr
    rw [hr] at ht
    exact ⟨c.state, stream, c.rx_cnt, c.last_fwd_cnt_to_peer, c.expiry, rfl, ht, .inl rfl⟩
  · rename_i stream hr
    rw [hr] at ht
    exact ⟨c.state, stream, c.rx_cnt, _, c.expiry, rfl, ht, .inl rfl⟩

/-- The bytes the host sent the guest and the guest has not forwarded fit in the guest's buffer,
in wrapping arithmetic. -/
def InCredit (c : VsockConnection) : Prop := c.rx_cnt - c.peer_fwd_cnt ≤ c.peer_buf_alloc

instance : DecidablePred InCredit := fun c =>
  inferInstanceAs (Decidable (c.rx_cnt - c.peer_fwd_cnt ≤ c.peer_buf_alloc))

/-- A data read moves `rx_cnt` by the length of the packet it yields, which is at most the peer's
credit. -/
theorem read_data_rx_cnt (c : VsockConnection) (pkt : PktHdr) (buf_len : Option Nat) (now : Nat)
    (hpkt : pkt.len = 0) :
    (c.read_data pkt buf_len now).1.rx_cnt = c.rx_cnt + (match (c.read_data pkt buf_len now).2 with
      | some (.ok p) => p.len
      | _ => 0) ∧
    ∀ p, (c.read_data pkt buf_len now).2 = some (.ok p) → p.len.toNat ≤ c.peer_avail_credit := by
  unfold read_data
  split_ifs
  · exact ⟨by simp [hpkt], fun p hp => by cases hp; simp [hpkt]⟩
  split
  · exact ⟨by simp, fun p hp => by cases hp⟩
  rename_i buf_len
  dsimp only
  split
  · rename_i stream read_cnt hr
    have hle := HostStream.read_le (congrArg Prod.snd hr)
    split_ifs
    · exact ⟨rfl, fun p hp => by cases hp; simp [hpkt]⟩
    · refine ⟨rfl, fun p hp => ?_⟩
      cases hp
      have := Nat.mod_le read_cnt (2 ^ 32)
      simp only [Nat.toUInt32_eq, UInt32.toNat_ofNat']
      omega
  · exact ⟨by simp, fun p hp => by cases hp⟩
  · exact ⟨by simp [hpkt], fun p hp => by cases hp; simp [hpkt]⟩

/-- A data read yields a credit request exactly when the peer has no credit left. -/
theorem read_data_credit_request (c : VsockConnection) (pkt : PktHdr) (buf_len : Option Nat)
    (now : Nat) :
    (∃ p, (c.read_data pkt buf_len now).2 = some (.ok p) ∧ p.op = VSOCK_OP_CREDIT_REQUEST) ↔
      c.peer_avail_credit = 0 := by
  unfold read_data
  split_ifs with hneed
  · simp only [need_credit_update_from_peer, beq_iff_eq] at hneed
    exact ⟨fun _ => hneed, fun _ => ⟨_, rfl, rfl⟩⟩
  have hcredit : c.peer_avail_credit ≠ 0 := by simpa [need_credit_update_from_peer] using hneed
  refine ⟨?_, fun h => absurd h hcredit⟩
  -- the other packets are data, a shutdown or an RST
  rintro ⟨p, hp, hop⟩
  split at hp
  · cases hp
  dsimp only at hp
  split at hp
  · split_ifs at hp <;> cases hp <;> cases hop
  · cases hp
  · cases hp
    cases hop

theorem recv_rw_eq (c : VsockConnection) (pkt : PktHdr) (buf_len : Option Nat) (now : Nat) :
    c.recv_rw pkt buf_len now = if c.state.sends_data then c.read_data pkt buf_len now
      else (c, some (.ok { pkt with op := VSOCK_OP_RST })) := by
  unfold recv_rw
  cases hs : c.state with
  | PeerClosed recv_off send_off => cases recv_off <;> simp [ConnState.sends_data]
  | _ => simp [ConnState.sends_data]

theorem recv_rw_frame (c : VsockConnection) (pkt : PktHdr) (buf_len : Option Nat) (now : Nat) :
    ∃ state stream rx_cnt last_fwd_cnt_to_peer expiry,
      (c.recv_rw pkt buf_len now).1 = { c with state, stream, rx_cnt, last_fwd_cnt_to_peer, expiry } ∧
      stream.taken = c.stream.taken ∧
      (state = c.state ∨ state = .LocalClosed ∧ c.state.sends_data = true ∧
        ∃ p, (c.recv_rw pkt buf_len now).2 = some (.ok p) ∧ p.op = VSOCK_OP_SHUTDOWN) := by
  rw [recv_rw_eq]
  split_ifs with hs
  · obtain ⟨state, stream, rx_cnt, last, expiry, heq, ht, hstate⟩ := read_data_frame c pkt buf_len now
    refine ⟨state, stream, rx_cnt, last, expiry, heq, ht, ?_⟩
    rcases hstate with h | ⟨h, hp⟩
    · exact .inl h
    · exact .inr ⟨h, hs, hp⟩
  · exact ⟨c.state, c.stream, c.rx_cnt, c.last_fwd_cnt_to_peer, c.expiry, rfl, rfl, .inl rfl⟩

theorem recv_rw_rx_cnt (c : VsockConnection) (pkt : PktHdr) (buf_len : Option Nat) (now : Nat)
    (hpkt : pkt.len = 0) :
    (c.recv_rw pkt buf_len now).1.rx_cnt = c.rx_cnt + (match (c.recv_rw pkt buf_len now).2 with
      | some (.ok p) => p.len
      | _ => 0) ∧
    ∀ p, (c.recv_rw pkt buf_len now).2 = some (.ok p) → p.len.toNat ≤ c.peer_avail_credit := by
  rw [recv_rw_eq]
  split_ifs
  · exact read_data_rx_cnt c pkt buf_len now hpkt
  · exact ⟨by simp [hpkt], fun p hp => by cases hp; simp [hpkt]⟩

theorem recv_rw_credit_request (c : VsockConnection) (pkt : PktHdr) (buf_len : Option Nat) (now : Nat) :
    (∃ p, (c.recv_rw pkt buf_len now).2 = some (.ok p) ∧ p.op = VSOCK_OP_CREDIT_REQUEST) ↔
      c.state.sends_data = true ∧ c.peer_avail_credit = 0 := by
  rw [recv_rw_eq]
  split_ifs with hs
  · simp only [hs, true_and]
    exact read_data_credit_request c pkt buf_len now
  · simp only [hs, Bool.false_eq_true, false_and, iff_false]
    rintro ⟨p, hp, hop⟩
    cases hp
    cases hop

theorem recv_credit_update_frame (c : VsockConnection) (pkt : PktHdr) :
    ∃ pending_rx last_fwd_cnt_to_peer,
      (c.recv_credit_update pkt).1 = { c with pending_rx, last_fwd_cnt_to_peer } ∧
      ∀ it, pending_rx.contains it = true → c.pending_rx.contains it = true := by
  have hsub : ∀ it, (c.pending_rx.remove .CreditUpdate).2.contains it = true →
      c.pending_rx.contains it = true := by
    intro it h
    simp_all
  unfold recv_credit_update
  dsimp only
  split_ifs
  · exact ⟨_, _, rfl, hsub⟩
  · exact ⟨_, c.last_fwd_cnt_to_peer, rfl, hsub⟩

/-- The only packet the last arm yields is a credit update. -/
theorem recv_credit_update_ok (c : VsockConnection) (pkt : PktHdr) {p : PktHdr}
    (h : (c.recv_credit_update pkt).2 = .ok p) : p = { pkt with op := VSOCK_OP_CREDIT_UPDATE } := by
  unfold recv_credit_update at h
  dsimp only at h
  split_ifs at h
  cases h
  rfl

/-- What `recv_data` does: with an `Rw` indication it reads, and a read that yields nothing falls
through to the credit update. -/
theorem recv_data_cases (c : VsockConnection) (pkt : PktHdr) (buf_len : Option Nat) (now : Nat) :
    (c.pending_rx.contains .Rw = true ∧ ∃ res,
      ({ c with pending_rx := (c.pending_rx.remove .Rw).2 }.recv_rw pkt buf_len now).2 = some res ∧
      c.recv_data pkt buf_len now =
        (({ c with pending_rx := (c.pending_rx.remove .Rw).2 }.recv_rw pkt buf_len now).1, res)) ∨
    (c.pending_rx.contains .Rw = true ∧
      ({ c with pending_rx := (c.pending_rx.remove .Rw).2 }.recv_rw pkt buf_len now).2 = none ∧
      c.recv_data pkt buf_len now =
        ({ c with pending_rx := (c.pending_rx.remove .Rw).2 }.recv_rw pkt buf_len now).1.recv_credit_update pkt) ∨
    (c.pending_rx.contains .Rw = false ∧
      c.recv_data pkt buf_len now = { c with pending_rx := (c.pending_rx.remove .Rw).2 }.recv_credit_update pkt) := by
  unfold recv_data
  cases hrw : c.pending_rx.contains .Rw
  · exact .inr (.inr ⟨rfl, by simp [hrw]⟩)
  · simp only [PendingRxSet.remove_fst, hrw, if_true]
    split
    · rename_i c' res hr
      exact .inl ⟨trivial, res, by rw [hr], by rw [hr]⟩
    · rename_i c' hr
      exact .inr (.inl ⟨trivial, by rw [hr], by rw [hr]⟩)

theorem recv_data_frame (c : VsockConnection) (pkt : PktHdr) (buf_len : Option Nat) (now : Nat) :
    ∃ state stream rx_cnt last_fwd_cnt_to_peer pending_rx expiry,
      (c.recv_data pkt buf_len now).1 =
        { c with state, stream, rx_cnt, last_fwd_cnt_to_peer, pending_rx, expiry } ∧
      stream.taken = c.stream.taken ∧
      (∀ it, pending_rx.contains it = true → c.pending_rx.contains it = true) ∧
      (state = c.state ∨ state = .LocalClosed ∧ c.state.sends_data = true ∧
        ∃ p, (c.recv_data pkt buf_len now).2 = .ok p ∧ p.op = VSOCK_OP_SHUTDOWN) := by
  have hrw : ∀ it, (c.pending_rx.remove .Rw).2.contains it = true → c.pending_rx.contains it = true := by
    intro it h
    simp_all
  obtain ⟨state, stream, rx_cnt, last, expiry, hf, ht, hs⟩ :=
    recv_rw_frame { c with pending_rx := (c.pending_rx.remove .Rw).2 } pkt buf_len now
  rcases recv_data_cases c pkt buf_len now with ⟨-, res, hres, heq⟩ | ⟨-, hnone, heq⟩ | ⟨-, heq⟩
  · rw [heq, hf]
    refine ⟨state, stream, rx_cnt, last, _, expiry, rfl, ht, hrw, ?_⟩
    rcases hs with hs | ⟨hs, hsend, p, hp, hop⟩
    · exact .inl hs
    · -- the packet yielded is the SHUTDOWN of the read
      rw [hres] at hp
      cases hp
      exact .inr ⟨hs, hsend, p, rfl, hop⟩
  · obtain ⟨pending_rx, last', hf', hsub⟩ := recv_credit_update_frame
      ({ c with pending_rx := (c.pending_rx.remove .Rw).2 }.recv_rw pkt buf_len now).1 pkt
    rw [heq, hf', hf]
    rw [hf] at hsub
    refine ⟨state, stream, rx_cnt, last', pending_rx, expiry, rfl, ht, fun it h => hrw it (hsub it h), ?_⟩
    -- a read that yields nothing did not reach the stream's end
    rcases hs with hs | ⟨-, -, p, hp, -⟩
    · exact .inl hs
    · rw [hnone] at hp
      cases hp
  · obtain ⟨pending_rx, last', hf', hsub⟩ := recv_credit_update_frame
      { c with pending_rx := (c.pending_rx.remove .Rw).2 } pkt
    rw [heq, hf']
    exact ⟨c.state, c.stream, c.rx_cnt, last', pending_rx, c.expiry, rfl, rfl,
      fun it h => hrw it (hsub it h), .inl rfl⟩

/-- The last arm keeps `rx_cnt` and yields no data. -/
theorem recv_credit_update_rx_cnt (c : VsockConnection) (pkt : PktHdr) (hpkt : pkt.len = 0) :
    (c.recv_credit_update pkt).1.rx_cnt = c.rx_cnt + (match (c.recv_credit_update pkt).2 with
      | .ok p => p.len
      | .error _ => 0) ∧
    ∀ p, (c.recv_credit_update pkt).2 = .ok p → p.len = 0 := by
  obtain ⟨pending_rx, last, hf, -⟩ := recv_credit_update_frame c pkt
  have hlen : ∀ p, (c.recv_credit_update pkt).2 = .ok p → p.len = 0 := fun p hp => by
    rw [recv_credit_update_ok c pkt hp]
    exact hpkt
  refine ⟨?_, hlen⟩
  rcases hres : (c.recv_credit_update pkt).2 with e | p
  · rw [hf]
    simp
  · rw [hf]
    simp [hlen p hres]

theorem recv_data_rx_cnt (c : VsockConnection) (pkt : PktHdr) (buf_len : Option Nat) (now : Nat)
    (hpkt : pkt.len = 0) :
    (c.recv_data pkt buf_len now).1.rx_cnt = c.rx_cnt + (match (c.recv_data pkt buf_len now).2 with
      | .ok p => p.len
      | .error _ => 0) ∧
    ∀ p, (c.recv_data pkt buf_len now).2 = .ok p → p.len.toNat ≤ c.peer_avail_credit := by
  obtain ⟨hrx, hle⟩ :=
    recv_rw_rx_cnt { c with pending_rx := (c.pending_rx.remove .Rw).2 } pkt buf_len now hpkt
  rcases recv_data_cases c pkt buf_len now with ⟨-, res, hres, heq⟩ | ⟨-, hnone, heq⟩ | ⟨-, heq⟩
  · rw [heq]
    rw [hres] at hrx hle
    refine ⟨?_, fun p hp => hle p (congrArg some hp)⟩
    rw [hrx]
    cases res <;> rfl
  · -- the read would block: nothing read, and the credit update arm follows
    rw [heq]
    rw [hnone] at hrx
    obtain ⟨hrx', hlen⟩ := recv_credit_update_rx_cnt
      ({ c with pending_rx := (c.pending_rx.remove .Rw).2 }.recv_rw pkt buf_len now).1 pkt hpkt
    refine ⟨by rw [hrx', hrx]; simp, fun p hp => ?_⟩
    rw [hlen p hp]
    exact Nat.zero_le _
  · rw [heq]
    obtain ⟨hrx', hlen⟩ := recv_credit_update_rx_cnt
      { c with pending_rx := (c.pending_rx.remove .Rw).2 } pkt hpkt
    refine ⟨hrx', fun p hp => ?_⟩
    rw [hlen p hp]
    exact Nat.zero_le _

theorem recv_data_credit_request (c : VsockConnection) (pkt : PktHdr) (buf_len : Option Nat)
    (now : Nat) :
    (∃ p, (c.recv_data pkt buf_len now).2 = .ok p ∧ p.op = VSOCK_OP_CREDIT_REQUEST) ↔
      c.pending_rx.contains .Rw = true ∧ c.state.sends_data = true ∧ c.peer_avail_credit = 0 := by
  have hcr := recv_rw_credit_request { c with pending_rx := (c.pending_rx.remove .Rw).2 } pkt buf_len now
  -- the credit update arm yields no credit request
  have credit : ∀ c' : VsockConnection,
      ¬ ∃ p, (c'.recv_credit_update pkt).2 = .ok p ∧ p.op = VSOCK_OP_CREDIT_REQUEST := by
    rintro c' ⟨p, hp, hop⟩
    rw [recv_credit_update_ok c' pkt hp] at hop
    cases hop
  rcases recv_data_cases c pkt buf_len now with ⟨hrw, res, hres, heq⟩ | ⟨hrw, hnone, heq⟩ | ⟨hrw, heq⟩
  · simp only [heq, hrw, true_and]
    refine Iff.trans ?_ hcr
    rw [hres]
    simp
  · simp only [heq, hrw, true_and]
    refine Iff.trans ?_ hcr
    rw [hnone]
    simpa using credit _
  · simp only [heq, hrw, Bool.false_eq_true, false_and, iff_false]
    exact credit _

/-- What `recv_pkt` does, by the first pending indication: an RST, the response, the request, or
the rest, from the data arm on. -/
theorem recv_pkt_cases (c : VsockConnection) (buf_len : Option Nat) (now : Nat) :
    (c.pending_rx.contains .Rst = true ∧
      c.recv_pkt buf_len now = ({ c with pending_rx := (c.pending_rx.remove .Rst).2 },
        .ok { c.init_pkt with op := VSOCK_OP_RST })) ∨
    (c.pending_rx.contains .Rst = false ∧ c.pending_rx.contains .Response = true ∧
      c.recv_pkt buf_len now =
        ({ c with pending_rx := ((c.pending_rx.remove .Rst).2.remove .Response).2, state := .Established },
          .ok { c.init_pkt with op := VSOCK_OP_RESPONSE })) ∨
    (c.pending_rx.contains .Rst = false ∧ c.pending_rx.contains .Response = false ∧
      c.pending_rx.contains .Request = true ∧
      c.recv_pkt buf_len now =
        ({ c with pending_rx := (((c.pending_rx.remove .Rst).2.remove .Response).2.remove .Request).2,
                  expiry := some (now + CONN_REQUEST_TIMEOUT_MS) },
          .ok { c.init_pkt with op := VSOCK_OP_REQUEST })) ∨
    (c.pending_rx.contains .Rst = false ∧ c.pending_rx.contains .Response = false ∧
      c.pending_rx.contains .Request = false ∧
      c.recv_pkt buf_len now =
        { c with pending_rx := (((c.pending_rx.remove .Rst).2.remove .Response).2.remove .Request).2 }.recv_data
          c.init_pkt buf_len now) := by
  unfold recv_pkt
  cases hrst : c.pending_rx.contains .Rst
  · cases hresp : c.pending_rx.contains .Response
    · cases hreq : c.pending_rx.contains .Request
      · refine .inr (.inr (.inr ⟨rfl, rfl, rfl, ?_⟩))
        simp [hrst, hresp, hreq]
      · refine .inr (.inr (.inl ⟨rfl, rfl, rfl, ?_⟩))
        simp [hrst, hresp, hreq]
    · refine .inr (.inl ⟨rfl, rfl, ?_⟩)
      simp [hrst, hresp]
  · exact .inl ⟨rfl, by simp [hrst]⟩

/-- `recv_pkt` only removes indications, and touches the state as the response, a data read or the
stream's end do. -/
theorem recv_pkt_frame (c : VsockConnection) (buf_len : Option Nat) (now : Nat) :
    ∃ state stream rx_cnt last_fwd_cnt_to_peer pending_rx expiry,
      (c.recv_pkt buf_len now).1 =
        { c with state, stream, rx_cnt, last_fwd_cnt_to_peer, pending_rx, expiry } ∧
      stream.taken = c.stream.taken ∧
      (∀ it, pending_rx.contains it = true → c.pending_rx.contains it = true) ∧
      (state = c.state ∨
        (state = .Established ∧ c.pending_rx.contains .Rst = false ∧
          c.pending_rx.contains .Response = true ∧
          ∃ p, (c.recv_pkt buf_len now).2 = .ok p ∧ p.op = VSOCK_OP_RESPONSE) ∨
        (state = .LocalClosed ∧ c.state.sends_data = true ∧
          ∃ p, (c.recv_pkt buf_len now).2 = .ok p ∧ p.op = VSOCK_OP_SHUTDOWN)) := by
  rcases recv_pkt_cases c buf_len now with ⟨-, heq⟩ | ⟨hrst, hresp, heq⟩ | ⟨-, -, -, heq⟩ | ⟨-, -, -, heq⟩
  · exact ⟨c.state, c.stream, c.rx_cnt, c.last_fwd_cnt_to_peer, _, c.expiry, by rw [heq], rfl,
      fun _ h => PendingRxSet.contains_of_remove h, .inl rfl⟩
  · exact ⟨.Established, c.stream, c.rx_cnt, c.last_fwd_cnt_to_peer, _, c.expiry, by rw [heq], rfl,
      fun _ h => PendingRxSet.contains_of_remove (PendingRxSet.contains_of_remove h),
      .inr (.inl ⟨rfl, hrst, hresp, _, by rw [heq], rfl⟩)⟩
  · exact ⟨c.state, c.stream, c.rx_cnt, c.last_fwd_cnt_to_peer, _, _, by rw [heq], rfl,
      fun _ h => PendingRxSet.contains_of_remove (PendingRxSet.contains_of_remove (PendingRxSet.contains_of_remove h)), .inl rfl⟩
  · obtain ⟨state, stream, rx_cnt, last, pending_rx, expiry, hf, ht, hsub, hs⟩ := recv_data_frame
      { c with pending_rx := (((c.pending_rx.remove .Rst).2.remove .Response).2.remove .Request).2 }
      c.init_pkt buf_len now
    refine ⟨state, stream, rx_cnt, last, pending_rx, expiry, by rw [heq, hf], ht,
      fun it h => PendingRxSet.contains_of_remove (PendingRxSet.contains_of_remove (PendingRxSet.contains_of_remove (hsub it h))), ?_⟩
    rcases hs with hs | ⟨hs, hsend, p, hp, hop⟩
    · exact .inl hs
    · exact .inr (.inr ⟨hs, hsend, p, by rw [heq]; exact hp, hop⟩)

/-- `rx_cnt` grows by the length of the packet yielded, which is within the peer's credit. -/
theorem recv_pkt_rx_cnt (c : VsockConnection) (buf_len : Option Nat) (now : Nat) :
    (c.recv_pkt buf_len now).1.rx_cnt = c.rx_cnt + (match (c.recv_pkt buf_len now).2 with
      | .ok p => p.len
      | .error _ => 0) ∧
    ∀ p, (c.recv_pkt buf_len now).2 = .ok p → p.len.toNat ≤ c.peer_avail_credit := by
  rcases recv_pkt_cases c buf_len now with ⟨-, heq⟩ | ⟨-, -, heq⟩ | ⟨-, -, -, heq⟩ | ⟨-, -, -, heq⟩
  all_goals rw [heq]
  · exact ⟨by simp [init_pkt], fun p hp => by cases hp; simp [init_pkt]⟩
  · exact ⟨by simp [init_pkt], fun p hp => by cases hp; simp [init_pkt]⟩
  · exact ⟨by simp [init_pkt], fun p hp => by cases hp; simp [init_pkt]⟩
  · exact recv_data_rx_cnt _ c.init_pkt buf_len now rfl

/-- `recv_pkt` comes to read data: no RST, response or request is pending, an `Rw` indication
is, and the state lets data flow to the peer. -/
def data_due (c : VsockConnection) : Bool :=
  !c.pending_rx.contains .Rst && !c.pending_rx.contains .Response &&
    !c.pending_rx.contains .Request && c.pending_rx.contains .Rw && c.state.sends_data

/-- `recv_pkt` asks the peer for credit exactly when it comes to read data and the peer has no
credit left. -/
theorem recv_pkt_credit_request (c : VsockConnection) (buf_len : Option Nat) (now : Nat) :
    (∃ p, (c.recv_pkt buf_len now).2 = .ok p ∧ p.op = VSOCK_OP_CREDIT_REQUEST) ↔
      c.data_due = true ∧ c.peer_avail_credit = 0 := by
  rcases recv_pkt_cases c buf_len now with ⟨hrst, heq⟩ | ⟨hrst, hresp, heq⟩ |
    ⟨hrst, hresp, hreq, heq⟩ | ⟨hrst, hresp, hreq, heq⟩
  · simp [heq, data_due, hrst, VSOCK_OP_RST, VSOCK_OP_CREDIT_REQUEST]
  · simp [heq, data_due, hresp, VSOCK_OP_RESPONSE, VSOCK_OP_CREDIT_REQUEST]
  · simp [heq, data_due, hreq, VSOCK_OP_REQUEST, VSOCK_OP_CREDIT_REQUEST]
  · rw [heq, recv_data_credit_request]
    simp [data_due, hrst, hresp, hreq, and_assoc, peer_avail_credit]

/-- Sending no more than the credit left keeps the guest's buffer from overflowing. -/
theorem in_credit_add {rx peer_fwd peer_alloc len : UInt32} (h : rx - peer_fwd ≤ peer_alloc)
    (hlen : len.toNat ≤ (peer_alloc - (rx - peer_fwd)).toNat) : rx + len - peer_fwd ≤ peer_alloc := by
  rw [UInt32.le_iff_toNat_le] at h ⊢
  simp only [UInt32.toNat_sub, UInt32.toNat_add] at h hlen ⊢
  have := rx.toNat_lt
  have := peer_fwd.toNat_lt
  have := peer_alloc.toNat_lt
  have := len.toNat_lt
  omega

/-- A packet for the guest stays within its credit. -/
theorem recv_pkt_in_credit (buf_len : Option Nat) (now : Nat) (h : c.InCredit) :
    (c.recv_pkt buf_len now).1.InCredit := by
  obtain ⟨state, stream, rx_cnt, last, pending_rx, expiry, hf, -⟩ := recv_pkt_frame c buf_len now
  obtain ⟨hrx, hle⟩ := recv_pkt_rx_cnt c buf_len now
  have hpeer : (c.recv_pkt buf_len now).1.peer_fwd_cnt = c.peer_fwd_cnt ∧
      (c.recv_pkt buf_len now).1.peer_buf_alloc = c.peer_buf_alloc := by
    rw [hf]
    exact ⟨rfl, rfl⟩
  unfold InCredit
  rw [hrx, hpeer.1, hpeer.2]
  apply in_credit_add h
  rcases hres : (c.recv_pkt buf_len now).2 with e | p
  · simp
  · exact hle p hres


/-! ## Clean pending sets

Every operation builds its pending set from the old one by `insert` and `remove`, so a clean set
stays clean. `recv_pkt` can then fail and leave indications behind only after a data read that
consumed the `Rw` indication. -/

section Clean

open PendingRxSet

theorem send_bytes_pending (c : VsockConnection) (buf : List UInt8) :
    (c.send_bytes buf).1.pending_rx = c.pending_rx := by
  obtain ⟨stream, fwd_cnt, tx_buf, hf⟩ := send_bytes_frame c buf
  rw [hf]

theorem kill_clean (h : c.pending_rx.Clean) : c.kill.pending_rx.Clean :=
  clean_insert h _

theorem forward_clean (h : c.pending_rx.Clean) (buf : List UInt8) :
    (c.forward buf).pending_rx.Clean := by
  unfold forward
  rcases hs : c.send_bytes buf with ⟨c', _ | ⟨⟩⟩
  all_goals
    have hc' : c'.pending_rx.Clean := by
      rw [show c' = (c.send_bytes buf).1 by rw [hs], send_bytes_pending]
      exact h
  · exact kill_clean hc'
  · dsimp only
    split_ifs
    · exact clean_insert hc' _
    · exact hc'

theorem shutdown_clean (h : c.pending_rx.Clean) (recv_off send_off : Bool) (now : Nat)
    (drain_timer : Bool) : (c.shutdown recv_off send_off now drain_timer).pending_rx.Clean := by
  unfold shutdown
  dsimp only
  split_ifs
  · exact clean_insert h _
  all_goals exact h

theorem send_pkt_clean (h : c.pending_rx.Clean) (pkt : TxPkt) (now : Nat) :
    (c.send_pkt pkt now).pending_rx.Clean := by
  -- the credit information leaves the indications as they were
  have hu : (c.update_peer_credit pkt).pending_rx.Clean := h
  have hrw : ((c.update_peer_credit pkt).send_rw pkt).pending_rx.Clean := by
    unfold send_rw
    split
    · exact hu
    · exact forward_clean hu _
  unfold send_pkt
  dsimp only
  -- the arms by state, then by the packet's operation
  split <;> try split_ifs
  all_goals first
    | exact hu
    | exact hrw
    | exact clean_insert hu _
    | exact shutdown_clean hu _ _ _ _

theorem flush_tx_clean (h : c.pending_rx.Clean) : c.flush_tx.pending_rx.Clean := by
  unfold flush_tx
  split_ifs
  · exact h
  dsimp only
  -- a failed flush kills the connection, and an `Rst` or a `CreditUpdate` may follow
  split <;> split_ifs
  all_goals first
    | exact h
    | exact clean_insert h _
    | exact kill_clean h
    | exact clean_insert (kill_clean h) _

theorem notify_clean (h : c.pending_rx.Clean) (evset : EventSet) :
    (c.notify evset).pending_rx.Clean := by
  unfold notify
  dsimp only
  split_ifs
  · exact flush_tx_clean (clean_insert h _)
  · exact flush_tx_clean h
  · exact clean_insert h _
  · exact h

theorem recv_rw_pending (c : VsockConnection) (pkt : PktHdr) (buf_len : Option Nat) (now : Nat) :
    (c.recv_rw pkt buf_len now).1.pending_rx = c.pending_rx := by
  obtain ⟨state, stream, rx_cnt, last, expiry, hf, -⟩ := recv_rw_frame c pkt buf_len now
  rw [hf]

theorem recv_credit_update_pending (c : VsockConnection) (pkt : PktHdr) :
    (c.recv_credit_update pkt).1.pending_rx = (c.pending_rx.remove .CreditUpdate).2 := by
  unfold recv_credit_update
  dsimp only
  split_ifs <;> rfl

/-- The data arm consumes the `Rw` indication, and when nothing is read also the credit update. -/
theorem recv_data_pending (c : VsockConnection) (pkt : PktHdr) (buf_len : Option Nat) (now : Nat) :
    (c.pending_rx.contains .Rw = true ∧
      (c.recv_data pkt buf_len now).1.pending_rx = (c.pending_rx.remove .Rw).2) ∨
    (c.recv_data pkt buf_len now).1.pending_rx =
      ((c.pending_rx.remove .Rw).2.remove .CreditUpdate).2 := by
  rcases recv_data_cases c pkt buf_len now with ⟨hrw, res, -, heq⟩ | ⟨-, -, heq⟩ | ⟨-, heq⟩
  · exact .inl ⟨hrw, by rw [heq, recv_rw_pending]⟩
  · exact .inr (by rw [heq, recv_credit_update_pending, recv_rw_pending])
  · exact .inr (by rw [heq, recv_credit_update_pending])

theorem recv_pkt_clean (h : c.pending_rx.Clean) (buf_len : Option Nat) (now : Nat) :
    (c.recv_pkt buf_len now).1.pending_rx.Clean := by
  rcases recv_pkt_cases c buf_len now with ⟨-, heq⟩ | ⟨-, -, heq⟩ | ⟨-, -, -, heq⟩ | ⟨-, -, -, heq⟩ <;>
    rw [heq]
  · exact clean_remove h _
  · exact clean_remove (clean_remove h _) _
  · exact clean_remove (clean_remove (clean_remove h _) _) _
  · have h₀ := clean_remove (clean_remove (clean_remove h .Rst) .Response) .Request
    rcases recv_data_pending { c with pending_rx := (((c.pending_rx.remove .Rst).2.remove
        .Response).2.remove .Request).2 } c.init_pkt buf_len now with ⟨-, hp⟩ | hp <;> rw [hp]
    · exact clean_remove h₀ _
    · exact clean_remove (clean_remove h₀ _) _

/-- A failed `recv_pkt` of a clean connection that leaves indications behind has consumed the
`Rw` indication: the packet buffer was missing for the data it was to read. -/
theorem recv_pkt_error_rw (h : c.pending_rx.Clean) {buf_len : Option Nat} {now : Nat}
    {e : VsockError} (he : (c.recv_pkt buf_len now).2 = .error e)
    (hp : (c.recv_pkt buf_len now).1.has_pending_rx = true) :
    c.pending_rx.contains .Rw = true ∧ (c.recv_pkt buf_len now).1.pending_rx.contains .Rw = false := by
  rcases recv_pkt_cases c buf_len now with ⟨-, heq⟩ | ⟨-, -, heq⟩ | ⟨-, -, -, heq⟩ | ⟨-, -, -, heq⟩ <;>
    rw [heq] at he hp ⊢
  · cases he
  · cases he
  · cases he
  rcases recv_data_pending { c with pending_rx := (((c.pending_rx.remove .Rst).2.remove
      .Response).2.remove .Request).2 } c.init_pkt buf_len now with ⟨hrw, hpend⟩ | hpend
  · exact ⟨contains_of_remove (contains_of_remove (contains_of_remove hrw)), by simp [hpend]⟩
  · -- every indication was removed: the set is empty, as it is clean
    have hc := recv_pkt_clean h buf_len now
    rw [heq, hpend] at hc
    have hempty := is_empty_of_clean hc fun it => by cases it <;> simp
    simp [has_pending_rx, hpend, hempty] at hp

/-- A failed `recv_pkt` leaves the state as it was, or closes the connection locally. -/
theorem recv_pkt_error_state {buf_len : Option Nat} {now : Nat} {e : VsockError}
    (he : (c.recv_pkt buf_len now).2 = .error e) :
    (c.recv_pkt buf_len now).1.state = c.state ∨ (c.recv_pkt buf_len now).1.state = .LocalClosed := by
  rcases recv_pkt_cases c buf_len now with ⟨-, heq⟩ | ⟨-, -, heq⟩ | ⟨-, -, -, heq⟩ | ⟨-, -, -, heq⟩ <;>
    rw [heq] at he ⊢
  · cases he
  · cases he
  · cases he
  obtain ⟨state, stream, rx_cnt, last, pending_rx, expiry, hf, -, -, hs⟩ := recv_data_frame
    { c with pending_rx := (((c.pending_rx.remove .Rst).2.remove .Response).2.remove .Request).2 }
    c.init_pkt buf_len now
  rw [hf]
  rcases hs with hs | ⟨hs, -⟩
  · exact .inl hs
  · exact .inr hs

end Clean

end VsockConnection

end KataContainers.Dragonball.Vsock.Csm
