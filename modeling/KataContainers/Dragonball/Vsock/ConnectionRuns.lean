import KataContainers.Dragonball.Vsock.ConnectionOps
import KataContainers.Lib.Transition

/-!
# Runs of a vsock connection

A run of a `VsockConnection` (`vsock/csm/connection.rs`) is any interleaving of the four things
that happen to it (`Event`): the guest hands it a packet (`send_pkt`), the guest asks it for one
(`recv_pkt`), the host stream reports readiness (`notify`), or the muxer kills it. The host
stream's answers to writes and reads are part of the initial state, so every sequence of answers
is covered. A `Run` carries, besides the connection, what the run has done so far: the payloads
`send_pkt` took in, in order (`accepted`); how many bytes the host stream had taken when the host
last yielded a packet to the guest (`yielded_fwd`: the `fwd_cnt` that packet carries, unwrapped);
and whether an RST has been yielded.

The invariants, each proved once per event from the lemmas of `Vsock/ConnectionOps.lean`:
* `DataInv`: while the connection lives, the host stream took a prefix of the bytes accepted, the
  TX buffer holds the rest and `fwd_cnt` counts what the stream took; and until the host confirms
  a guest-initiated connection, nothing flows;
* `RstInv`: until the first RST, a pending response is the one of a connection the guest
  initiated, and a killed connection has an RST pending;
* `InCredit`, over runs in which the guest reports its credit soundly (`RxCredit`).

From them: the conservation of the data forwarded to the host (`accepted_bytes_conserved`), that
a guest within the credit the host advertised never overflows the TX buffer
(`tx_credit_prevents_overflow`), that the host keeps within the guest's credit
(`rx_within_guest_credit`), and that the state moves only along the protocol's transitions, each
on the packet or host event that the protocol ties it to (`EventStep`, `conn_state_transitions`).
-/

namespace KataContainers.Dragonball.Vsock.Csm

open VsockConnection

/-- What happens to a connection: the guest hands it a packet; the guest asks it for one, into an
RX buffer of `buf_len` bytes if the packet has one; the host stream reports readiness; or the
muxer kills it. `now` is the time, in milliseconds. -/
inductive Event
  | send_pkt (pkt : TxPkt) (now : Nat)
  | recv_pkt (buf_len : Option Nat) (now : Nat)
  | notify (evset : EventSet)
  | kill

def Event.is_recv : Event → Bool
  | .recv_pkt _ _ => true
  | _ => false

/-- A connection, and what its run has done so far. -/
structure Run where
  conn : VsockConnection
  /-- The payloads of the RW packets `send_pkt` took in, in order. -/
  accepted : List UInt8
  /-- The bytes the host stream had taken when the host last yielded a packet to the guest. -/
  yielded_fwd : Nat
  rst_yielded : Bool

/-- The transitions each event may cause, tied to the packet or the host event behind it: those
of the guest's packet, those of the packet yielded to the guest, a kill when the host stream is
writable and the flush to it fails, and the muxer's kill. -/
inductive EventStep (c : VsockConnection) : Event → ConnState → Prop
  | send_pkt {pkt : TxPkt} {now : Nat} {s : ConnState} :
      TxStep pkt c.state s → EventStep c (.send_pkt pkt now) s
  | recv_pkt {buf_len : Option Nat} {now : Nat} {s : ConnState} :
      RxStep (c.recv_pkt buf_len now).2 c.state s → EventStep c (.recv_pkt buf_len now) s
  | notify_stay (evset : EventSet) : EventStep c (.notify evset) c.state
  | notify_killed {evset : EventSet} : evset.EPOLLOUT = true → EventStep c (.notify evset) .Killed
  | kill : EventStep c .kill .Killed

/-- An event's transition is one of the protocol's. -/
theorem EventStep.state_step {c : VsockConnection} {e : Event} {s : ConnState}
    (h : EventStep c e s) : StateStep c.state s := by
  cases h with
  | send_pkt h => exact h.state_step
  | recv_pkt h => exact h.state_step
  | notify_stay => exact .stay _
  | notify_killed => exact .killed _
  | kill => exact .killed _

namespace Run

def step (r : Run) : Event → Run
  | .send_pkt pkt now =>
    { r with conn := r.conn.send_pkt pkt now,
             accepted := r.accepted ++ (r.conn.rw_payload pkt).getD [] }
  | .recv_pkt buf_len now =>
    match r.conn.recv_pkt buf_len now with
    | (conn, .ok pkt) =>
      { conn, accepted := r.accepted, yielded_fwd := r.conn.stream.taken.length,
        rst_yielded := r.rst_yielded || pkt.op == VSOCK_OP_RST }
    | (conn, .error _) => { r with conn }
  | .notify evset => { r with conn := r.conn.notify evset }
  | .kill => { r with conn := r.conn.kill }

/-- A run starts from a new connection, guest- or host-initiated, over a host stream that has taken
nothing. -/
def Initial (r : Run) : Prop :=
  r.accepted = [] ∧ r.yielded_fwd = 0 ∧ r.rst_yielded = false ∧ r.conn.stream.taken = [] ∧
    ((∃ stream local_cid peer_cid local_port peer_port peer_buf_alloc,
        r.conn = .new_peer_init stream local_cid peer_cid local_port peer_port peer_buf_alloc) ∨
      ∃ stream local_cid peer_cid local_port peer_port,
        r.conn = .new_local_init stream local_cid peer_cid local_port peer_port)

def Reachable : Run → Prop := Transition.Reachable Initial step

variable {r : Run}

/-- A `recv_pkt` event: the packet yielded, if any, records the stream's count and whether it is
an RST. -/
theorem step_recv (r : Run) (buf_len : Option Nat) (now : Nat) :
    r.step (.recv_pkt buf_len now) =
      { conn := (r.conn.recv_pkt buf_len now).1, accepted := r.accepted,
        yielded_fwd := match (r.conn.recv_pkt buf_len now).2 with
          | .ok _ => r.conn.stream.taken.length
          | .error _ => r.yielded_fwd,
        rst_yielded := match (r.conn.recv_pkt buf_len now).2 with
          | .ok pkt => r.rst_yielded || pkt.op == VSOCK_OP_RST
          | .error _ => r.rst_yielded } := by
  simp only [step]
  split <;> rename_i heq <;> rw [heq]

/-! ## The data path -/

/-- What every run keeps of the data path. -/
structure DataInv (r : Run) : Prop where
  /-- While the connection lives, it carries the bytes accepted. -/
  carries : r.conn.state ≠ .Killed → r.conn.Carries r.accepted
  /-- The count last yielded to the guest counts bytes the stream took. -/
  yielded_le : r.conn.state ≠ .Killed → r.yielded_fwd ≤ r.conn.stream.taken.length
  /-- Until the host confirms a guest-initiated connection, nothing flows; a kill before that is
  undone by the confirmation. -/
  unopened : r.conn.pending_rx.contains .Response = true →
    (r.conn.state = .PeerInit ∨ r.conn.state = .Killed) ∧ r.accepted = [] ∧ r.conn.Carries []

theorem DataInv.initial (h : r.Initial) : r.DataInv := by
  obtain ⟨hacc, hy, -, ht, ⟨stream, lc, pc, lp, pp, pba, hc⟩ | ⟨stream, lc, pc, lp, pp, hc⟩⟩ := h
  · have hnil : r.conn.Carries [] := carries_nil ht (by rw [hc]; rfl) (by rw [hc]; rfl)
    exact ⟨fun _ => hacc ▸ hnil, fun _ => by simp [hy],
      fun _ => ⟨.inl (by rw [hc]; rfl), hacc, hnil⟩⟩
  · have hnil : r.conn.Carries [] := carries_nil ht (by rw [hc]; rfl) (by rw [hc]; rfl)
    refine ⟨fun _ => hacc ▸ hnil, fun _ => by simp [hy], fun hresp => ?_⟩
    rw [hc] at hresp
    simp [new_local_init] at hresp

theorem DataInv.send_pkt (h : r.DataInv) {pkt : TxPkt} {now : Nat} :
    (r.step (.send_pkt pkt now)).DataInv := by
  have hstep := send_pkt_step r.conn pkt now
  -- a connection that lives after the packet lived before it
  have hlive : (r.conn.send_pkt pkt now).state ≠ .Killed → r.conn.state ≠ .Killed :=
    fun hk hk0 => hk (StateStep.killed_absorbing (hk0 ▸ hstep.state_step))
  refine ⟨fun hk => ?_, fun hk => ?_, fun hresp => ?_⟩
  · rcases send_pkt_carries pkt now (h.carries (hlive hk)) with hc | ⟨hk', -⟩
    · exact hc
    · exact absurd hk' hk
  · exact (h.yielded_le (hlive hk)).trans (send_pkt_taken r.conn pkt now).length_le
  · obtain ⟨hs, hacc, hnil⟩ := h.unopened ((send_pkt_pending r.conn pkt now).response hresp)
    have hp : r.conn.rw_payload pkt = none := rw_payload_eq_none hs
    refine ⟨by simpa [step, send_pkt_state_eq pkt now hs] using hs, by simp [step, hacc, hp], ?_⟩
    rcases send_pkt_carries pkt now hnil with hc | ⟨-, hp'⟩
    · simpa [step, hp] using hc
    · exact absurd hp hp'

theorem DataInv.recv_pkt (h : r.DataInv) {buf_len : Option Nat} {now : Nat} :
    (r.step (.recv_pkt buf_len now)).DataInv := by
  rw [step_recv]
  obtain ⟨state, stream, rx_cnt, last, pending_rx, expiry, hf, ht, hsub, hs⟩ :=
    recv_pkt_frame r.conn buf_len now
  -- the data path is untouched
  have hdata : ∀ acc, r.conn.Carries acc → (r.conn.recv_pkt buf_len now).1.Carries acc :=
    fun acc hc => hc.of_eq (by rw [hf]; exact ht) (by rw [hf]) (by rw [hf])
  have htaken : (r.conn.recv_pkt buf_len now).1.stream.taken = r.conn.stream.taken := by
    rw [hf]
    exact ht
  -- a connection the response revives is one that carried nothing
  have hrevive : (r.conn.recv_pkt buf_len now).1.state ≠ .Killed → r.conn.state = .Killed →
      r.conn.pending_rx.contains .Rst = false ∧ r.conn.pending_rx.contains .Response = true := by
    intro hk hk0
    rw [hf] at hk
    rcases hs with hs | ⟨-, hrst, hresp, -⟩ | ⟨-, hsend, -⟩
    · exact absurd (hs.trans hk0) hk
    · exact ⟨hrst, hresp⟩
    · rw [hk0] at hsend
      cases hsend
  refine ⟨fun hk => ?_, fun hk => ?_, fun hresp => ?_⟩
  · by_cases hk0 : r.conn.state = .Killed
    · obtain ⟨-, hacc, hnil⟩ := h.unopened (hrevive hk hk0).2
      rw [hacc]
      exact hdata _ hnil
    · exact hdata _ (h.carries hk0)
  · rw [htaken]
    rcases hres : (r.conn.recv_pkt buf_len now).2 with e | p
    · -- nothing yielded: the response, which always yields, did not revive the connection
      have hk0 : r.conn.state ≠ .Killed := by
        intro hk0
        obtain ⟨hrst, hresp⟩ := hrevive hk hk0
        rcases recv_pkt_cases r.conn buf_len now with ⟨hrst', -⟩ | ⟨-, -, heq⟩ | ⟨-, hresp', -⟩ |
          ⟨-, hresp', -⟩
        · rw [hrst] at hrst'
          cases hrst'
        · rw [heq] at hres
          cases hres
        all_goals rw [hresp] at hresp'; cases hresp'
      exact h.yielded_le hk0
    · exact Nat.le_refl _
  · have hresp0 := hsub _ (by rw [hf] at hresp; exact hresp)
    obtain ⟨hs0, hacc, hnil⟩ := h.unopened hresp0
    refine ⟨?_, hacc, hdata _ hnil⟩
    -- the response was not yielded, so an RST was, and the state did not move
    rcases recv_pkt_cases r.conn buf_len now with ⟨-, heq⟩ | ⟨-, -, heq⟩ | ⟨-, hresp', -⟩ |
      ⟨-, hresp', -⟩
    · rw [heq]
      exact hs0
    · rw [heq] at hresp
      simp at hresp
    all_goals rw [hresp0] at hresp'; cases hresp'

theorem DataInv.notify (h : r.DataInv) {evset : EventSet} : (r.step (.notify evset)).DataInv := by
  obtain ⟨state, tx_buf, stream, fwd_cnt, pending_rx, hf, hs, hg⟩ := notify_frame r.conn evset
  -- a live connection after the notification is in the state it was in
  have hlive : (r.conn.notify evset).state ≠ .Killed → (r.conn.notify evset).state = r.conn.state := by
    intro hk
    rw [hf] at hk ⊢
    rcases hs with hs | ⟨hs, -⟩
    · exact hs
    · exact absurd hs hk
  refine ⟨fun hk => ?_, fun hk => ?_, fun hresp => ?_⟩
  · exact (notify_carries evset (h.carries ((hlive hk) ▸ hk))).1
  · have hk0 : r.conn.state ≠ .Killed := (hlive hk) ▸ hk
    exact (h.yielded_le hk0).trans (notify_carries evset (h.carries hk0)).2.length_le
  · have hresp0 : r.conn.pending_rx.contains .Response = true :=
      hg.response (by simpa [step, hf] using hresp)
    obtain ⟨hs0, hacc, hnil⟩ := h.unopened hresp0
    refine ⟨?_, hacc, (notify_carries evset hnil).1⟩
    show (r.conn.notify evset).state = .PeerInit ∨ (r.conn.notify evset).state = .Killed
    rw [hf]
    rcases hs with hs | ⟨hs, -⟩
    · exact hs ▸ hs0
    · exact .inr hs

theorem DataInv.kill (h : r.DataInv) : (r.step .kill).DataInv := by
  refine ⟨fun hk => absurd rfl hk, fun hk => absurd rfl hk, fun hresp => ?_⟩
  obtain ⟨-, hacc, hnil⟩ := h.unopened (kill_pending.response hresp)
  exact ⟨.inr rfl, hacc, hnil.of_eq rfl rfl rfl⟩

theorem DataInv.step (h : r.DataInv) (e : Event) : (r.step e).DataInv := by
  cases e with
  | send_pkt pkt now => exact h.send_pkt
  | recv_pkt buf_len now => exact h.recv_pkt
  | notify evset => exact h.notify
  | kill => exact h.kill

theorem Reachable.dataInv (h : r.Reachable) : r.DataInv := by
  induction h with
  | init hs => exact DataInv.initial hs
  | step e _ ih => exact ih.step e

/-- A guest-initiated connection that the host confirms and that the guest then sends three bytes
on, of which the host stream takes one at once. -/
def partial_write : Run :=
  Transition.run step ⟨.new_peer_init ⟨[], [.ok 1], []⟩ 2 3 1024 1025 65536, [], 0, false⟩
    [.recv_pkt none 0, .send_pkt ⟨VSOCK_OP_RW, 0, 3, 65536, 0, some [1, 2, 3]⟩ 0]

theorem partial_write_reachable : partial_write.Reachable :=
  (Transition.Reachable.init ⟨rfl, rfl, rfl, rfl, .inl ⟨_, _, _, _, _, _, rfl⟩⟩).run _

/-- While a connection lives, the bytes its host stream took are a prefix of the payloads it
accepted, in order, and its TX buffer holds the rest; `fwd_cnt` counts the bytes the stream took,
and with the bytes buffered the bytes accepted, both modulo `2 ^ 32`. -/
theorem accepted_bytes_conserved (h : r.Reachable) (hk : r.conn.state ≠ .Killed) :
    r.conn.stream.taken <+: r.accepted ∧
      r.conn.tx_buf.Holds (r.accepted.drop r.conn.stream.taken.length) ∧
      r.conn.fwd_cnt.toNat = r.conn.stream.taken.length % 2 ^ 32 ∧
      (r.conn.fwd_cnt.toNat + r.conn.tx_buf.len) % 2 ^ 32 = r.accepted.length % 2 ^ 32 := by
  obtain ⟨hpre, hbuf, hfwd⟩ := h.dataInv.carries hk
  refine ⟨hpre, hbuf, hfwd, ?_⟩
  have hlen := hpre.length_le
  rw [hfwd, hbuf.len_eq, List.length_drop, Nat.mod_add_mod]
  congr 1
  omega

/-- The two bytes the stream has not taken are in the TX buffer. -/
theorem accepted_bytes_conserved_partial_write :
    partial_write.conn.state ≠ .Killed ∧ partial_write.conn.tx_buf.Holds [2, 3] := by
  have hk : partial_write.conn.state ≠ .Killed := by decide
  have hrest : partial_write.accepted.drop partial_write.conn.stream.taken.length = [2, 3] := by
    decide
  exact ⟨hk, hrest ▸ (accepted_bytes_conserved partial_write_reachable hk).2.1⟩

/-- The guest keeps to the credit the host advertised: the payload accepted from it, this packet's
included, exceeds by at most `CONN_TX_BUF_SIZE` (the `buf_alloc` of every packet the host yields)
the bytes forwarded as of the last packet the host yielded. -/
def TxCredit (r : Run) : Event → Prop
  | .send_pkt pkt _ =>
    r.accepted.length + ((r.conn.rw_payload pkt).getD []).length ≤ r.yielded_fwd + TxBuf.SIZE
  | _ => True

instance (r : Run) (e : Event) : Decidable (TxCredit r e) := by
  cases e <;> unfold TxCredit <;> infer_instance

/-- A guest within its credit never overflows the TX buffer: the `send_bytes` of an RW packet
never fails with `TxBufFull`, and a packet kills the connection only on a host stream error. -/
theorem tx_credit_prevents_overflow (h : Transition.ReachableBy Initial step TxCredit r)
    {pkt : TxPkt} {now : Nat} (hg : TxCredit r (.send_pkt pkt now)) :
    (∀ p, r.conn.rw_payload pkt = some p →
      ((r.conn.update_peer_credit pkt).send_bytes p).2 ≠ .error .TxBufFull) ∧
    ((r.step (.send_pkt pkt now)).conn.state = .Killed →
      r.conn.state = .Killed ∨ r.conn.stream.writes.head? = some .error) := by
  have hd : r.DataInv := Reachable.dataInv h.reachable
  by_cases hk : r.conn.state = .Killed
  · refine ⟨fun p hp => ?_, fun _ => .inl hk⟩
    rw [rw_payload_eq_none (.inr hk)] at hp
    cases hp
  -- the guard bounds what the buffer would hold: the stream took all the guest was told of
  have hc := hd.carries hk
  have hy := hd.yielded_le hk
  have hlen := hc.taken_prefix.length_le
  refine ⟨fun p hp he => ?_, fun hk' => ?_⟩
  · rcases send_bytes_error hc.update_peer_credit he with ⟨-, hfull⟩ | ⟨he', -⟩
    · simp only [TxCredit, hp, Option.getD_some] at hg
      change TxBuf.SIZE < r.accepted.length - r.conn.stream.taken.length + p.length at hfull
      omega
    · cases he'
  · rcases send_pkt_killed hc hk' with hk0 | ⟨p, hp, hfull | hhead⟩
    · exact .inl hk0
    · simp only [TxCredit, hp, Option.getD_some] at hg
      omega
    · exact .inr hhead

theorem partial_write_tx_credit : Transition.ReachableBy Initial step TxCredit partial_write := by
  simp only [partial_write, Transition.run, List.foldl]
  refine .step _ (.step _ (.init ?_) trivial) (by decide)
  exact ⟨rfl, rfl, rfl, rfl, .inl ⟨_, _, _, _, _, _, rfl⟩⟩

/-- Two more bytes fit, though the stream has taken only one of the first three. -/
theorem tx_credit_prevents_overflow_second_write :
    TxCredit partial_write (.send_pkt ⟨VSOCK_OP_RW, 0, 2, 65536, 0, some [4, 5]⟩ 0) ∧
      ((partial_write.conn.update_peer_credit ⟨VSOCK_OP_RW, 0, 2, 65536, 0, some [4, 5]⟩).send_bytes
        [4, 5]).2 ≠ .error .TxBufFull := by
  have hg : TxCredit partial_write (.send_pkt ⟨VSOCK_OP_RW, 0, 2, 65536, 0, some [4, 5]⟩ 0) := by
    decide
  exact ⟨hg, (tx_credit_prevents_overflow partial_write_tx_credit hg).1 _ (by decide)⟩

/-! ## The state -/

/-- Until the first RST: a pending response is the one of a guest-initiated connection the host
has not confirmed, unless an RST comes first; and a killed connection has an RST pending. -/
structure RstInv (r : Run) : Prop where
  response : r.rst_yielded = false → r.conn.pending_rx.contains .Response = true →
    r.conn.state = .PeerInit ∨ r.conn.pending_rx.contains .Rst = true
  killed : r.rst_yielded = false → r.conn.state = .Killed → r.conn.pending_rx.contains .Rst = true

theorem RstInv.initial (h : r.Initial) : r.RstInv := by
  obtain ⟨-, -, -, -, ⟨stream, lc, pc, lp, pp, pba, hc⟩ | ⟨stream, lc, pc, lp, pp, hc⟩⟩ := h
  · exact ⟨fun _ _ => .inl (by rw [hc]; rfl), fun _ hk => by rw [hc] at hk; cases hk⟩
  · refine ⟨fun _ hresp => ?_, fun _ hk => by rw [hc] at hk; cases hk⟩
    rw [hc] at hresp
    simp [new_local_init] at hresp

/-- A `recv_pkt` after which no RST has been yielded had none pending, and none yielded before. -/
theorem recv_quiet {buf_len : Option Nat} {now : Nat}
    (hy : (r.step (.recv_pkt buf_len now)).rst_yielded = false) :
    r.rst_yielded = false ∧ r.conn.pending_rx.contains .Rst = false := by
  rw [step_recv] at hy
  dsimp only at hy
  rcases recv_pkt_cases r.conn buf_len now with ⟨-, heq⟩ | ⟨hrst, -⟩ | ⟨hrst, -⟩ | ⟨hrst, -⟩
  · rw [heq] at hy
    simp at hy
  all_goals
    refine ⟨?_, hrst⟩
    split at hy
    · exact (Bool.or_eq_false_iff.mp hy).1
    · exact hy

theorem RstInv.send_pkt (h : r.RstInv) {pkt : TxPkt} {now : Nat} :
    (r.step (.send_pkt pkt now)).RstInv := by
  have hg := send_pkt_pending r.conn pkt now
  refine ⟨fun hy hresp => ?_, fun hy hk => ?_⟩
  · rcases h.response hy (hg.response hresp) with hs | hrst
    · exact .inl ((send_pkt_state_eq pkt now (.inl hs)).trans hs)
    · exact .inr (hg.keeps _ hrst)
  · rcases send_pkt_killed_rst hk with hk0 | hrst
    · exact hg.keeps _ (h.killed hy hk0)
    · exact hrst

theorem RstInv.recv_pkt (h : r.RstInv) {buf_len : Option Nat} {now : Nat} :
    (r.step (.recv_pkt buf_len now)).RstInv := by
  obtain ⟨state, stream, rx_cnt, last, pending_rx, expiry, hf, -, hsub, hs⟩ :=
    recv_pkt_frame r.conn buf_len now
  refine ⟨fun hy hresp => ?_, fun hy hk => ?_⟩
  · -- with no RST pending, a pending response is yielded now
    obtain ⟨-, hrst⟩ := recv_quiet hy
    rw [step_recv] at hresp
    have hresp0 := hsub _ (by rw [hf] at hresp; exact hresp)
    rcases recv_pkt_cases r.conn buf_len now with ⟨hrst', -⟩ | ⟨-, -, heq⟩ | ⟨-, hresp', -⟩ |
      ⟨-, hresp', -⟩
    · rw [hrst] at hrst'
      cases hrst'
    · rw [heq] at hresp
      simp at hresp
    all_goals rw [hresp0] at hresp'; cases hresp'
  · -- `recv_pkt` kills nothing, and a connection killed before had an RST pending
    obtain ⟨hy0, hrst⟩ := recv_quiet hy
    rw [step_recv] at hk
    dsimp only at hk
    rw [hf] at hk
    rcases hs with hs | ⟨hs, -⟩ | ⟨hs, -⟩
    · rw [h.killed hy0 (hs ▸ hk)] at hrst
      cases hrst
    all_goals rw [hs] at hk; cases hk

theorem RstInv.notify (h : r.RstInv) {evset : EventSet} : (r.step (.notify evset)).RstInv := by
  obtain ⟨state, tx_buf, stream, fwd_cnt, pending_rx, hf, hs, hg⟩ := notify_frame r.conn evset
  have hstate : (r.step (.notify evset)).conn.state = state := by simp [step, hf]
  have hpending : (r.step (.notify evset)).conn.pending_rx = pending_rx := by simp [step, hf]
  refine ⟨fun hy hresp => ?_, fun hy hk => ?_⟩
  · rw [hpending] at hresp
    rw [hstate, hpending]
    rcases h.response hy (hg.response hresp) with hs0 | hrst
    · rcases hs with hs | ⟨-, hrst', -⟩
      · exact .inl (hs.trans hs0)
      · exact .inr hrst'
    · exact .inr (hg.keeps _ hrst)
  · rw [hstate] at hk
    rw [hpending]
    rcases hs with hs | ⟨-, hrst', -⟩
    · exact hg.keeps _ (h.killed hy (hs ▸ hk))
    · exact hrst'

theorem RstInv.kill : (r.step .kill).RstInv :=
  ⟨fun _ _ => .inr (by simp [step, VsockConnection.kill]),
    fun _ _ => by simp [step, VsockConnection.kill]⟩

theorem RstInv.step (h : r.RstInv) (e : Event) : (r.step e).RstInv := by
  cases e with
  | send_pkt pkt now => exact h.send_pkt
  | recv_pkt buf_len now => exact h.recv_pkt
  | notify evset => exact h.notify
  | kill => exact RstInv.kill

theorem Reachable.rstInv (h : r.Reachable) : r.RstInv := by
  induction h with
  | init hs => exact RstInv.initial hs
  | step e _ ih => exact ih.step e

/-- Until the first RST, every event moves the state along a transition of its packet or host
event. -/
theorem RstInv.event_step (h : r.RstInv) (hy : r.rst_yielded = false) (e : Event) :
    EventStep r.conn e (r.step e).conn.state := by
  cases e with
  | send_pkt pkt now => exact .send_pkt (send_pkt_step r.conn pkt now)
  | recv_pkt buf_len now =>
    obtain ⟨state, stream, rx_cnt, last, pending_rx, expiry, hf, -, -, hs⟩ :=
      recv_pkt_frame r.conn buf_len now
    rw [step_recv]
    refine .recv_pkt ?_
    show RxStep _ r.conn.state (r.conn.recv_pkt buf_len now).1.state
    rw [hf]
    dsimp only
    rcases hs with hs | ⟨hs, hrst, hresp, p, hp, hop⟩ | ⟨hs, hsend, p, hp, hop⟩
    · exact hs ▸ .stay _ _
    · -- the response confirms a connection the guest initiated
      rcases h.response hy hresp with hpi | hrst'
      · rw [hs, hpi, hp]
        exact .peer_established hop
      · rw [hrst] at hrst'
        cases hrst'
    · rw [hs, hp]
      exact .local_closed hsend hop
  | notify evset =>
    obtain ⟨state, tx_buf, stream, fwd_cnt, pending_rx, hf, hs, -⟩ := notify_frame r.conn evset
    show EventStep r.conn (.notify evset) (r.conn.notify evset).state
    rw [hf]
    dsimp only
    rcases hs with hs | ⟨hs, -, hout⟩
    · exact hs ▸ .notify_stay evset
    · exact hs ▸ .notify_killed hout
  | kill => exact .kill

/-- Events other than `recv_pkt` keep an RST pending. -/
theorem rst_kept (h : r.conn.pending_rx.contains .Rst = true) {e : Event} (he : e.is_recv = false) :
    (r.step e).conn.pending_rx.contains .Rst = true := by
  cases e with
  | send_pkt pkt now => exact (send_pkt_pending r.conn pkt now).keeps _ h
  | recv_pkt _ _ => cases he
  | notify evset =>
    obtain ⟨state, tx_buf, stream, fwd_cnt, pending_rx, hf, -, hg⟩ := notify_frame r.conn evset
    show (r.conn.notify evset).pending_rx.contains .Rst = true
    rw [hf]
    exact hg.keeps _ h
  | kill => exact kill_pending.keeps _ h

theorem rst_kept_run (h : r.conn.pending_rx.contains .Rst = true) {es : List Event}
    (hes : ∀ e ∈ es, e.is_recv = false) :
    (Transition.run step r es).conn.pending_rx.contains .Rst = true :=
  Transition.run_invariant (I := fun s : Run => s.conn.pending_rx.contains .Rst = true)
    (fun e he _ hs => rst_kept hs (hes e he)) h

/-- Until the first RST the connection's state moves only along the transitions of the packet or
host event behind each event, and never leaves `Killed`; once `kill` has been called, the next
packet `recv_pkt` yields is an RST, whatever other events come in between. -/
theorem conn_state_transitions (h : r.Reachable) :
    (r.rst_yielded = false → ∀ e, EventStep r.conn e (r.step e).conn.state) ∧
    (r.rst_yielded = false → r.conn.state = .Killed → ∀ e, (r.step e).conn.state = .Killed) ∧
    ∀ es : List Event, (∀ e ∈ es, e.is_recv = false) → ∀ buf_len now,
      ∃ p, ((Transition.run step (r.step .kill) es).conn.recv_pkt buf_len now).2 = .ok p ∧
        p.op = VSOCK_OP_RST := by
  have hi := h.rstInv
  refine ⟨fun hy e => hi.event_step hy e,
    fun hy hk e => StateStep.killed_absorbing (hk ▸ (hi.event_step hy e).state_step),
    fun es hes buf_len now => ?_⟩
  have hrst := rst_kept_run
    (show (r.step .kill).conn.pending_rx.contains .Rst = true by simp [step, VsockConnection.kill]) hes
  rcases recv_pkt_cases (Transition.run step (r.step .kill) es).conn buf_len now with
    ⟨-, heq⟩ | ⟨hrst', -⟩ | ⟨hrst', -⟩ | ⟨hrst', -⟩
  · exact ⟨_, by rw [heq], rfl⟩
  all_goals rw [hrst] at hrst'; cases hrst'

/-- A guest SHUTDOWN moves the confirmed connection along its transition, and after a kill the
next packet is an RST. -/
theorem conn_state_transitions_partial_write :
    partial_write.Reachable ∧ partial_write.rst_yielded = false ∧
      EventStep partial_write.conn (.send_pkt ⟨VSOCK_OP_SHUTDOWN, VSOCK_FLAGS_SHUTDOWN_SEND, 0, 65536, 0, none⟩ 0)
        (partial_write.step
          (.send_pkt ⟨VSOCK_OP_SHUTDOWN, VSOCK_FLAGS_SHUTDOWN_SEND, 0, 65536, 0, none⟩ 0)).conn.state ∧
      ∃ p, ((partial_write.step .kill).conn.recv_pkt none 0).2 = .ok p ∧ p.op = VSOCK_OP_RST := by
  have hy : partial_write.rst_yielded = false := by decide
  have h := conn_state_transitions partial_write_reachable
  exact ⟨partial_write_reachable, hy, h.1 hy _, h.2.2 [] (fun _ he => by cases he) none 0⟩

/-! ## The guest's credit -/

/-- The guest reports its credit soundly: the bytes the host sent it and it has not forwarded fit
in the buffer it reports. -/
def RxCredit (r : Run) : Event → Prop
  | .send_pkt pkt _ => r.conn.rx_cnt - pkt.fwd_cnt ≤ pkt.buf_alloc
  | _ => True

instance (r : Run) (e : Event) : Decidable (RxCredit r e) := by
  cases e <;> unfold RxCredit <;> infer_instance

theorem in_credit_initial (h : r.Initial) : r.conn.InCredit := by
  obtain ⟨-, -, -, -, ⟨stream, lc, pc, lp, pp, pba, hc⟩ | ⟨stream, lc, pc, lp, pp, hc⟩⟩ := h
  · rw [hc]
    simp [InCredit, new_peer_init]
  · rw [hc]
    simp [InCredit, new_local_init]

theorem in_credit_step (h : r.conn.InCredit) (e : Event) (hg : RxCredit r e) :
    (r.step e).conn.InCredit := by
  cases e with
  | send_pkt pkt now =>
    obtain ⟨hrx, hba, hfc⟩ := send_pkt_credit r.conn pkt now
    show (r.conn.send_pkt pkt now).InCredit
    unfold InCredit
    rw [hrx, hba, hfc]
    exact hg
  | recv_pkt buf_len now =>
    rw [step_recv]
    exact recv_pkt_in_credit buf_len now h
  | notify evset =>
    obtain ⟨state, tx_buf, stream, fwd_cnt, pending_rx, hf, -⟩ := notify_frame r.conn evset
    show (r.conn.notify evset).InCredit
    rw [hf]
    exact h
  | kill => exact h

theorem in_credit_of_reachableBy (h : Transition.ReachableBy Initial step RxCredit r) :
    r.conn.InCredit := by
  induction h with
  | init hs => exact in_credit_initial hs
  | step e _ hg ih => exact in_credit_step ih e hg

/-- While the guest reports its credit soundly, the host keeps within it: every packet `recv_pkt`
yields carries at most the credit left, so the guest's buffer never overflows; and `recv_pkt`
asks for credit instead of reading data exactly when none is left. -/
theorem rx_within_guest_credit (h : Transition.ReachableBy Initial step RxCredit r)
    (buf_len : Option Nat) (now : Nat) :
    r.conn.InCredit ∧
      (∀ p, (r.conn.recv_pkt buf_len now).2 = .ok p → p.len.toNat ≤ r.conn.peer_avail_credit) ∧
      (r.conn.recv_pkt buf_len now).1.InCredit ∧
      ((∃ p, (r.conn.recv_pkt buf_len now).2 = .ok p ∧ p.op = VSOCK_OP_CREDIT_REQUEST) ↔
        r.conn.data_due = true ∧ r.conn.peer_avail_credit = 0) := by
  have hc := in_credit_of_reachableBy h
  exact ⟨hc, (recv_pkt_rx_cnt r.conn buf_len now).2, recv_pkt_in_credit buf_len now hc,
    recv_pkt_credit_request r.conn buf_len now⟩

theorem partial_write_rx_credit : Transition.ReachableBy Initial step RxCredit partial_write := by
  simp only [partial_write, Transition.run, List.foldl]
  refine .step _ (.step _ (.init ?_) trivial) (by decide)
  exact ⟨rfl, rfl, rfl, rfl, .inl ⟨_, _, _, _, _, _, rfl⟩⟩

/-- The next packet keeps the guest's credit. -/
theorem rx_within_guest_credit_partial_write :
    Transition.ReachableBy Initial step RxCredit partial_write ∧
      (partial_write.conn.recv_pkt (some 4096) 0).1.InCredit :=
  ⟨partial_write_rx_credit, (rx_within_guest_credit partial_write_rx_credit (some 4096) 0).2.2.1⟩

end Run

end KataContainers.Dragonball.Vsock.Csm
