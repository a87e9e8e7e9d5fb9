import KataContainers.Dragonball.Vsock.MuxerRuns

/-!
# The RX loop of the vsock muxer ends

`recv_pkt` loops over its RX queue until a packet is built or the queue is empty. A round that
builds no packet pops the front item, or keeps it when the connection at the front failed and
still has pending RX (the source's `do_pop`). A connection whose pending set is `Clean`, which
every connection of a reachable muxer is (`clean_closed`), keeps pending RX after a failure only
when the failure consumed its `Rw` indication (`VsockConnection.recv_pkt_error_rw`).

The update of the connection's listener that follows each round may kill the connection, which
adds an `Rst` and may queue it again; a kill takes the answer of a failed `epoll_ctl`, of which
the muxer has finitely many. `recv_measure` weighs the `epoll_ctl` answers over the queue's items
over the indications of the connection at the front, and decreases at every round that builds
no packet (`recv_loop_round`). The loop then ends, with a packet or with an empty queue, within
that many rounds (`recv_loop_ends`).
-/

namespace KataContainers.Dragonball.Vsock.Muxer

open Csm VsockMuxer

/-! ## Clean connections -/

theorem clean_closed : ConnClosed fun c => c.pending_rx.Clean where
  new_peer_init _ _ _ _ _ _ := PendingRxSet.clean_from_item _
  new_local_init _ _ _ _ _ := PendingRxSet.clean_from_item _
  kill _ h := VsockConnection.kill_clean h
  ack c local_port h := by
    -- the ack writes to the host stream, and kills the connection when the write falls short
    obtain ⟨stream, heq | heq⟩ := ack_host_end_cases c local_port <;> rw [heq]
    · exact h
    · exact PendingRxSet.clean_insert h _
  send_pkt _ pkt now h := VsockConnection.send_pkt_clean h pkt now
  notify _ evset h := VsockConnection.notify_clean h evset
  recv_pkt _ buf_len now h := VsockConnection.recv_pkt_clean h buf_len now

/-! ## The measure -/

/-- The number of indications of the connection at the front of the RX queue. -/
def front_card (m : VsockMuxer) : Nat :=
  match m.rxq.peek with
  | some (.ConnRx key) =>
    match m.conn_map[key]? with
    | some conn => conn.pending_rx.card
    | none => 0
  | _ => 0

/-- What decreases at every round of `recv_loop` that builds no packet: the `epoll_ctl` answers
before the queue's items before the indications at the front. -/
def recv_measure (m : VsockMuxer) : Nat :=
  m.epoll.length * 12 + m.rxq.q.length * 6 + front_card m

theorem front_card_le (m : VsockMuxer) : front_card m ≤ 5 := by
  unfold front_card
  split
  · split
    · exact PendingRxSet.card_le _
    · exact Nat.zero_le _
  · exact Nat.zero_le _

theorem front_card_eq {m : VsockMuxer} {key : ConnMapKey} {conn : VsockConnection}
    (hp : m.rxq.peek = some (.ConnRx key)) (hk : m.conn_map[key]? = some conn) :
    front_card m = conn.pending_rx.card := by
  simp [front_card, hp, hk]

section Measure

variable {m m' : VsockMuxer}

/-- One item fewer, and no more answers. -/
theorem recv_measure_lt_of_q (he : m'.epoll.length ≤ m.epoll.length)
    (hq : m'.rxq.q.length < m.rxq.q.length) : recv_measure m' < recv_measure m := by
  have := front_card_le m'
  unfold recv_measure
  omega

/-- One answer fewer, and at most one item more. -/
theorem recv_measure_lt_of_epoll (he : m'.epoll.length < m.epoll.length)
    (hq : m'.rxq.q.length ≤ m.rxq.q.length + 1) : recv_measure m' < recv_measure m := by
  have := front_card_le m'
  unfold recv_measure
  omega

/-- The same queue, no more answers, and fewer indications at the front. -/
theorem recv_measure_lt_of_front (he : m'.epoll.length ≤ m.epoll.length)
    (hq : m'.rxq.q.length ≤ m.rxq.q.length) (hf : front_card m' < front_card m) :
    recv_measure m' < recv_measure m := by
  unfold recv_measure
  omega

end Measure

/-! ## A round of the loop -/

section Round

variable {m : VsockMuxer} {key : ConnMapKey} {conn : VsockConnection} {buf_len : Option Nat}
  {now : Nat}

/-- A failed `recv_pkt` of the connection at the front: what follows it keeps the connections
clean, and the measure decreases whether the item is popped or kept. -/
theorem recv_error_round (h : ConnsHold (fun c => c.pending_rx.Clean) m)
    (hpeek : m.rxq.peek = some (.ConnRx key)) (hk : m.conn_map[key]? = some conn)
    {e : Csm.VsockError} (he : (conn.recv_pkt buf_len now).2 = .error e) :
    ConnsHold (fun c => c.pending_rx.Clean)
        (m.after_mutation key now conn (conn.recv_pkt buf_len now).1) ∧
      ((conn.recv_pkt buf_len now).1.has_pending_rx = false →
        recv_measure { m.after_mutation key now conn (conn.recv_pkt buf_len now).1 with
          rxq := (m.after_mutation key now conn (conn.recv_pkt buf_len now).1).rxq.pop.2 } <
        recv_measure m) ∧
      ((conn.recv_pkt buf_len now).1.has_pending_rx = true →
        recv_measure (m.after_mutation key now conn (conn.recv_pkt buf_len now).1) <
          recv_measure m) := by
  have hc : conn.pending_rx.Clean := h key conn hk
  obtain ⟨rest, hq⟩ : ∃ rest, m.rxq.q = .ConnRx key :: rest := by
    simp only [MuxerRxQ.peek] at hpeek
    exact List.head?_eq_some_iff.mp hpeek
  -- a failed `recv_pkt` yields no response, so no host end is acked, and it only removes
  -- indications, so the connection is not queued anew
  have hack : ¬(conn.state = .LocalInit ∧ (conn.recv_pkt buf_len now).1.state = .Established) := by
    rintro ⟨hl, hes⟩
    rcases VsockConnection.recv_pkt_error_state he with hs | hs <;> rw [hs] at hes
    · rw [hl] at hes
      cases hes
    · cases hes
  have hnew : (conn.recv_pkt buf_len now).1.has_pending_rx = true → conn.has_pending_rx = true :=
    fun hp => by
      obtain ⟨hrw, -⟩ := VsockConnection.recv_pkt_error_rw hc he hp
      simp [VsockConnection.has_pending_rx, PendingRxSet.is_empty_of_contains hrw]
  obtain ⟨killq, heq⟩ := after_mutation_quiet m key now hack hnew
  obtain ⟨m₀, hf, hle, hres | ⟨hres, hlt⟩⟩ := update_listener_spec
    { m with conn_map := m.conn_map.insert key (conn.recv_pkt buf_len now).1, killq } key
    (conn.recv_pkt buf_len now).1.get_polled_evset
  · -- the listener was updated: the queue is as it was, the connection at the front changed
    have hq₀ : m₀.rxq.q = .ConnRx key :: rest := by
      rw [hf.rxq]
      exact hq
    refine ⟨h.after_mutation clean_closed key now conn (VsockConnection.recv_pkt_clean hc _ _),
      fun _ => ?_, fun hp => ?_⟩ <;> rw [heq, hres]
    · exact recv_measure_lt_of_q hle (by simp [MuxerRxQ.pop, hq₀, hq])
    · have hk₀ : m₀.conn_map[key]? = some (conn.recv_pkt buf_len now).1 := by
        rw [hf.conn_map]
        exact Std.HashMap.getElem?_insert_self
      have hpeek₀ : m₀.rxq.peek = some (.ConnRx key) := by
        simp [MuxerRxQ.peek, hq₀]
      obtain ⟨hrw, hrw'⟩ := VsockConnection.recv_pkt_error_rw hc he hp
      obtain ⟨state, stream, rx_cnt, last, pending_rx, expiry, hfr, -, hsub, -⟩ :=
        VsockConnection.recv_pkt_frame conn buf_len now
      have hcard : (conn.recv_pkt buf_len now).1.pending_rx.card < conn.pending_rx.card :=
        PendingRxSet.card_lt (fun it hit => hsub it (by rw [hfr] at hit; exact hit)) hrw hrw'
      refine recv_measure_lt_of_front hle (by rw [hq₀, hq]) ?_
      rw [front_card_eq hpeek₀ hk₀, front_card_eq hpeek hk]
      exact hcard
  · -- the listener could not be updated: the kill took a failed answer
    have hlen : (m₀.kill_connection key).rxq.q.length ≤ m.rxq.q.length + 1 := by
      rcases kill_connection_rxq m₀ key with ⟨hr, -⟩ | hr <;> rw [hr]
      · rw [hf.rxq]
        exact Nat.le_succ _
      · rcases MuxerRxQ.push_conn_q m₀.rxq key with hp | hp <;> rw [hp, hf.rxq] <;> simp
    refine ⟨h.after_mutation clean_closed key now conn (VsockConnection.recv_pkt_clean hc _ _),
      fun _ => ?_, fun _ => ?_⟩ <;> rw [heq, hres]
    · refine recv_measure_lt_of_epoll (by simpa using hlt) ?_
      simp only [MuxerRxQ.pop, List.length_tail]
      omega
    · exact recv_measure_lt_of_epoll (by simpa using hlt) hlen

/-- One round of `recv_loop` on a muxer whose connections are clean: it returns, with a packet
or an empty queue, whatever the fuel; or it goes on from a muxer whose connections are clean and
whose measure is smaller. -/
theorem recv_loop_round (h : ConnsHold (fun c => c.pending_rx.Clean) m) (buf_len : Option Nat)
    (now : Nat) :
    (∃ r : VsockMuxer × Except Csm.VsockError PktHdr, ((∃ pkt, r.2 = .ok pkt) ∨ r.1.rxq.q = []) ∧
      ∀ fuel, recv_loop buf_len now (fuel + 1) m = r) ∨
    (∃ m', ConnsHold (fun c => c.pending_rx.Clean) m' ∧ recv_measure m' < recv_measure m ∧
      ∀ fuel, recv_loop buf_len now (fuel + 1) m = recv_loop buf_len now fuel m') := by
  rcases hpeek : m.rxq.peek with _ | (key | ⟨local_port, peer_port⟩)
  · -- the queue is empty
    refine .inl ⟨(m, .error .NoData), .inr ?_, fun fuel => by simp [recv_loop, hpeek]⟩
    simpa [MuxerRxQ.peek] using hpeek
  · rcases hk : m.conn_map[key]? with _ | conn
    · -- the connection is gone: its item is popped
      refine .inr ⟨_, h.pop, recv_measure_lt_of_q (le_refl _) ?_, fun fuel => by
        simp [recv_loop, hpeek, apply_conn_mutation_none _ hk]⟩
      obtain ⟨rest, hq⟩ : ∃ rest, m.rxq.q = .ConnRx key :: rest := by
        simp only [MuxerRxQ.peek] at hpeek
        exact List.head?_eq_some_iff.mp hpeek
      simp [MuxerRxQ.pop, hq]
    rcases hres : (conn.recv_pkt buf_len now).2 with e | pkt
    · -- no packet: the item is popped when the connection has nothing left
      obtain ⟨hclean, hpop, hkeep⟩ := recv_error_round h hpeek hk hres
      cases hp : (conn.recv_pkt buf_len now).1.has_pending_rx
      · refine .inr ⟨_, hclean.pop, hpop hp, fun fuel => ?_⟩
        simp [recv_loop, hpeek, apply_conn_mutation_some _ hk, recv_conn_eq, hres, hp]
      · refine .inr ⟨_, hclean, hkeep hp, fun fuel => ?_⟩
        simp [recv_loop, hpeek, apply_conn_mutation_some _ hk, recv_conn_eq, hres, hp]
    · -- a packet from the connection
      refine .inl ⟨recv_loop buf_len now 1 m, .inl ⟨pkt, ?_⟩, fun fuel => ?_⟩ <;>
        simp [recv_loop, hpeek, apply_conn_mutation_some _ hk, recv_conn_eq, hres]
  · -- an RST
    exact .inl ⟨({ m with rxq := m.rxq.pop.2 }, .ok (m.rst_pkt local_port peer_port)),
      .inl ⟨_, rfl⟩, fun fuel => by simp only [recv_loop, hpeek]⟩

end Round

/-! ## The loop ends -/

/-- With more rounds than the measure, `recv_loop` ends with a packet or an empty queue, and more
fuel changes nothing. -/
theorem recv_loop_ends {m : VsockMuxer} (h : ConnsHold (fun c => c.pending_rx.Clean) m)
    (buf_len : Option Nat) (now fuel fuel' : Nat) (hfuel : recv_measure m < fuel)
    (hfuel' : recv_measure m < fuel') :
    recv_loop buf_len now fuel m = recv_loop buf_len now fuel' m ∧
      ((∃ pkt, (recv_loop buf_len now fuel m).2 = .ok pkt) ∨
        (recv_loop buf_len now fuel m).1.rxq.q = []) := by
  -- induction on the fuel; each round that goes on lowers the measure
  induction fuel generalizing m fuel' with
  | zero => omega
  | succ fuel ih =>
    obtain ⟨f, rfl⟩ : ∃ f, fuel' = f + 1 := ⟨fuel' - 1, by omega⟩
    rcases recv_loop_round h buf_len now with ⟨r, hr, heq⟩ | ⟨m', h', hlt, heq⟩
    · rw [heq, heq]
      exact ⟨rfl, hr⟩
    · rw [heq, heq]
      exact ih h' f (by omega) (by omega)

/-- `recv_pkt` on a muxer whose connections are clean ends: with enough fuel it builds a packet or
empties the queue, and more fuel changes nothing. -/
theorem recv_pkt_ends {m : VsockMuxer} (h : ConnsHold (fun c => c.pending_rx.Clean) m)
    (buf_len : Option Nat) (now : Nat) :
    ∃ N, ∀ fuel, N ≤ fuel →
      m.recv_pkt buf_len now fuel = m.recv_pkt buf_len now N ∧
      ((∃ pkt, (m.recv_pkt buf_len now N).2 = .ok pkt) ∨ (m.recv_pkt buf_len now N).1.rxq.q = []) := by
  unfold VsockMuxer.recv_pkt
  dsimp only
  -- the queue rebuilt from the connections leaves them as they are
  generalize hm₀ : (if (m.rxq.is_empty && !m.rxq.is_synced) = true then
    { m with rxq := MuxerRxQ.from_conn_map m.conn_map } else m) = m₀
  have h₀ : ConnsHold (fun c => c.pending_rx.Clean) m₀ := by
    subst hm₀
    split_ifs
    · exact h.of_conn_map rfl
    · exact h
  refine ⟨recv_measure m₀ + 1, fun fuel hfuel => ?_⟩
  obtain ⟨heq, -⟩ := recv_loop_ends h₀ buf_len now fuel (recv_measure m₀ + 1) (by omega) (by omega)
  exact ⟨heq, (recv_loop_ends h₀ buf_len now (recv_measure m₀ + 1) (recv_measure m₀ + 1)
    (by omega) (by omega)).2⟩

theorem recv_pkt_terminates :
    (∀ m : VsockMuxer, m.Reachable → ∀ buf_len now, ∃ N, ∀ fuel, N ≤ fuel →
      m.recv_pkt buf_len now fuel = m.recv_pkt buf_len now N ∧
      ((∃ pkt, (m.recv_pkt buf_len now N).2 = .ok pkt) ∨ (m.recv_pkt buf_len now N).1.rxq.q = [])) ∧
    (∀ m : VsockMuxer, m.Reachable → ∀ (key : ConnMapKey) (conn : VsockConnection),
      m.conn_map[key]? = some conn →
      conn.pending_rx.Clean) ∧
    (∀ (conn : VsockConnection) buf_len now e, conn.pending_rx.Clean →
      (conn.recv_pkt buf_len now).2 = .error e → (conn.recv_pkt buf_len now).1.has_pending_rx = true →
      (∀ it, (conn.recv_pkt buf_len now).1.pending_rx.contains it = true →
        conn.pending_rx.contains it = true) ∧
      conn.pending_rx.contains .Rw = true ∧
      (conn.recv_pkt buf_len now).1.pending_rx.contains .Rw = false) := by
  refine ⟨fun m h buf_len now => recv_pkt_ends (h.conns_hold clean_closed) buf_len now,
    fun m h => h.conns_hold clean_closed, fun conn buf_len now e hc he hp => ⟨?_, ?_⟩⟩
  · obtain ⟨state, stream, rx_cnt, last, pending_rx, expiry, hf, -, hsub, -⟩ :=
      VsockConnection.recv_pkt_frame conn buf_len now
    rw [hf]
    exact hsub
  · exact VsockConnection.recv_pkt_error_rw hc he hp

theorem recv_pkt_terminates_guest_connected :
    ∃ N, ∀ fuel, N ≤ fuel →
      guest_connected.recv_pkt none 0 fuel = guest_connected.recv_pkt none 0 N ∧
      ((∃ pkt, (guest_connected.recv_pkt none 0 N).2 = .ok pkt) ∨
        (guest_connected.recv_pkt none 0 N).1.rxq.q = []) :=
  recv_pkt_terminates.1 guest_connected guest_connected_reachable none 0

end KataContainers.Dragonball.Vsock.Muxer
