import KataContainers.Dragonball.Vsock.MuxerOps
import KataContainers.Lib.Transition

/-!
# Runs of the vsock muxer

A run of the muxer starts from `VsockMuxer.new` and takes any sequence of events: guest packets
(`send_pkt`), requests for a packet for the guest (`recv_pkt`), events on a connection's
listener, host connect commands, and the kills, removals and sweeps of the muxer's own
bookkeeping.

The RX queue invariant `Inv` says that while the queue is synced, every connection with pending
RX is in it. It rests on a fact about the connections the muxer makes: a host-initiated
connection that the guest has not confirmed has no response to yield (`Unacked`), so the ack
that `after_mutation` sends to a host end that has just been established never follows a
`recv_pkt`, which is the one place where a connection's queue item is popped.

A property of connections that the connections the muxer makes have and that every action on a
connection keeps (`ConnClosed`) holds of every connection of a reachable muxer
(`Reachable.conns_hold`); `Vsock/MuxerRecv.lean` uses it for clean pending sets.

The keys of the connection map are not unique in the same way: a guest may connect to a host
port that `allocate_local_port` later hands out, and `local_connect_reuses_live_key` shows the
host's connect command then adding a connection under the live key.
-/

namespace KataContainers.Dragonball.Vsock.Muxer

open Csm VsockMuxer

/-! ## The connections the muxer makes -/

/-- A host-initiated connection that the guest has not confirmed has no response to yield. -/
def Unacked (conn : VsockConnection) : Prop :=
  conn.state = .LocalInit → conn.pending_rx.contains .Response = false

namespace Unacked

variable {c : VsockConnection}

theorem new_peer_init (stream : HostStream) (local_cid peer_cid : UInt64)
    (local_port peer_port peer_buf_alloc : UInt32) :
    Unacked (VsockConnection.new_peer_init stream local_cid peer_cid local_port peer_port
      peer_buf_alloc) :=
  fun h => by cases h

theorem new_local_init (stream : HostStream) (local_cid peer_cid : UInt64)
    (local_port peer_port : UInt32) :
    Unacked (VsockConnection.new_local_init stream local_cid peer_cid local_port peer_port) :=
  fun _ => by simp [VsockConnection.new_local_init]

theorem kill (c : VsockConnection) : Unacked c.kill := fun h => by cases h

theorem ack (h : Unacked c) (local_port : UInt32) : Unacked (ack_host_end c local_port) := by
  obtain ⟨stream, heq | heq⟩ := ack_host_end_cases c local_port <;> rw [heq]
  · exact h
  · exact kill _

/-- Only the guest's RESPONSE moves a connection out of `LocalInit`, and it yields none. -/
theorem send_pkt (h : Unacked c) (pkt : TxPkt) (now : Nat) : Unacked (c.send_pkt pkt now) := by
  intro hl
  have h₀ : c.state = .LocalInit := StateStep.local_init_of (hl ▸ (VsockConnection.send_pkt_step c pkt now).state_step)
  cases hr : (c.send_pkt pkt now).pending_rx.contains .Response
  · rfl
  · have := (VsockConnection.send_pkt_pending c pkt now).response hr
    rw [h h₀] at this
    cases this

theorem notify (h : Unacked c) (evset : EventSet) : Unacked (c.notify evset) := by
  obtain ⟨state, tx_buf, stream, fwd_cnt, pending_rx, hf, hs, hg⟩ := VsockConnection.notify_frame c evset
  rw [hf]
  intro hl
  rcases hs with hs | ⟨hs, -⟩
  · cases hr : pending_rx.contains .Response
    · rfl
    · have := hg.response hr
      rw [h (hs ▸ hl)] at this
      cases this
  · rw [hs] at hl
    cases hl

/-- `recv_pkt` leaves an unconfirmed host-initiated connection as it is. -/
theorem recv_pkt_state (h : Unacked c) (hl : c.state = .LocalInit) (buf_len : Option Nat)
    (now : Nat) : (c.recv_pkt buf_len now).1.state = .LocalInit := by
  obtain ⟨state, stream, rx_cnt, last, pending_rx, expiry, hf, -, -, hs⟩ :=
    VsockConnection.recv_pkt_frame c buf_len now
  rw [hf]
  rcases hs with hs | ⟨-, -, hresp, -⟩ | ⟨-, hsend, -⟩
  · exact hs.trans hl
  · rw [h hl] at hresp
    cases hresp
  · rw [hl] at hsend
    cases hsend

theorem recv_pkt (h : Unacked c) (buf_len : Option Nat) (now : Nat) :
    Unacked (c.recv_pkt buf_len now).1 := by
  obtain ⟨state, stream, rx_cnt, last, pending_rx, expiry, hf, -, hsub, hs⟩ :=
    VsockConnection.recv_pkt_frame c buf_len now
  rw [hf]
  intro hl
  dsimp only at hl ⊢
  rcases hs with hs | ⟨hs, -⟩ | ⟨hs, -⟩
  · cases hr : pending_rx.contains .Response
    · rfl
    · have := hsub _ hr
      rw [h (hs ▸ hl)] at this
      cases this
  all_goals rw [hs] at hl; cases hl

end Unacked

/-! ## Events and runs -/

/-- What may happen to the muxer. -/
inductive Event
  /-- A guest packet, with its payload and what the peer backend answers a request with. -/
  | send_pkt (pkt : PktHdr) (buf : Option (List UInt8)) (connect : Option HostStream)
  /-- The guest asks for a packet, into an RX buffer of `buf_len` bytes. -/
  | recv_pkt (buf_len : Option Nat) (fuel : Nat)
  /-- An event on a connection's listener. -/
  | conn_event (key : ConnMapKey) (evset : EventSet)
  /-- A host socket's "connect <port>" command. -/
  | local_connect (peer_port : UInt32) (stream : HostStream)
  /-- A host socket's "passfd" command, and whether the descriptor could be made non-blocking. -/
  | passfd_connect (peer_port : UInt32) (stream : HostStream) (nonblock_ok : Bool)
  | kill_connection (key : ConnMapKey)
  | remove_connection (key : ConnMapKey)
  | sweep_killq

namespace VsockMuxer

/-- One event, at time `now`. -/
def step (m : VsockMuxer) : Event × Nat → VsockMuxer
  | (.send_pkt pkt buf connect, now) => m.send_pkt pkt buf connect now
  | (.recv_pkt buf_len fuel, now) => (m.recv_pkt buf_len now fuel).1
  | (.conn_event key evset, now) => m.handle_conn_event key evset now
  | (.local_connect peer_port stream, now) => m.handle_local_connect peer_port stream now
  | (.passfd_connect peer_port stream nonblock_ok, now) =>
    m.handle_passfd_connect peer_port stream nonblock_ok now
  | (.kill_connection key, _) => m.kill_connection key
  | (.remove_connection key, _) => m.remove_connection key
  | (.sweep_killq, now) => m.sweep_killq now

def Initial (m : VsockMuxer) : Prop := ∃ cid epoll peer_backend, m = .new cid epoll peer_backend

def Reachable : VsockMuxer → Prop := Transition.Reachable Initial step

/-! ## Properties of every connection -/

/-- A property that the connections the muxer makes have, and that every action on a connection
keeps. -/
structure ConnClosed (P : VsockConnection → Prop) : Prop where
  new_peer_init : ∀ stream local_cid peer_cid local_port peer_port peer_buf_alloc,
    P (VsockConnection.new_peer_init stream local_cid peer_cid local_port peer_port peer_buf_alloc)
  new_local_init : ∀ stream local_cid peer_cid local_port peer_port,
    P (VsockConnection.new_local_init stream local_cid peer_cid local_port peer_port)
  kill : ∀ c, P c → P c.kill
  ack : ∀ c local_port, P c → P (ack_host_end c local_port)
  send_pkt : ∀ c pkt now, P c → P (c.send_pkt pkt now)
  notify : ∀ c evset, P c → P (c.notify evset)
  recv_pkt : ∀ c buf_len now, P c → P (c.recv_pkt buf_len now).1

/-- Every connection of the muxer has the property. -/
def ConnsHold (P : VsockConnection → Prop) (m : VsockMuxer) : Prop :=
  ∀ (key : ConnMapKey) (conn : VsockConnection), m.conn_map[key]? = some conn → P conn

namespace ConnsHold

variable {P : VsockConnection → Prop} {m : VsockMuxer}

theorem initial (h : Initial m) : ConnsHold P m := by
  obtain ⟨cid, epoll, peer_backend, rfl⟩ := h
  intro _ _ hk
  simp [new] at hk

theorem of_conn_map {m' : VsockMuxer} (h : ConnsHold P m) (hc : m'.conn_map = m.conn_map) :
    ConnsHold P m' :=
  fun key conn hk => h key conn (hc ▸ hk)

theorem pop (h : ConnsHold P m) : ConnsHold P { m with rxq := m.rxq.pop.2 } :=
  h.of_conn_map rfl

theorem kill_connection (hP : ConnClosed P) (h : ConnsHold P m) (key : ConnMapKey) :
    ConnsHold P (m.kill_connection key) := by
  intro k conn hk
  rw [kill_connection_getElem?] at hk
  split_ifs at hk
  · obtain ⟨c, hc, rfl⟩ := Option.map_eq_some_iff.mp hk
    exact hP.kill c (h k c hc)
  · exact h k conn hk

theorem remove_connection (h : ConnsHold P m) (key : ConnMapKey) :
    ConnsHold P (m.remove_connection key) := by
  intro k conn hk
  rw [remove_connection_getElem?] at hk
  split_ifs at hk
  exact h k conn hk

theorem kill_steps (hP : ConnClosed P) (h : ConnsHold P m) {m' : VsockMuxer}
    (hs : Relation.ReflTransGen KillStep m m') : ConnsHold P m' := by
  induction hs with
  | refl => exact h
  | tail _ hstep ih =>
    rcases hstep with hf | ⟨key, rfl⟩
    · exact ih.of_conn_map hf.conn_map
    · exact ih.kill_connection hP key

theorem sweep_killq (hP : ConnClosed P) (h : ConnsHold P m) (now : Nat) :
    ConnsHold P (m.sweep_killq now) :=
  h.kill_steps hP (sweep_killq_kills m now)

theorem add_connection (hP : ConnClosed P) (h : ConnsHold P m) (key : ConnMapKey)
    {conn : VsockConnection} (hc : P conn) (now : Nat) :
    ConnsHold P (m.add_connection key conn now).1 := by
  have h₀ := h.sweep_killq hP now
  obtain ⟨m₀, hf, ⟨heq, -⟩ | ⟨-, hmap, -⟩⟩ := add_connection_cases m key conn now
  · rw [heq]
    exact h₀.of_conn_map hf.conn_map
  · intro k c hk
    rw [hmap, Std.HashMap.getElem?_insert] at hk
    split_ifs at hk
    · cases hk
      exact hc
    · exact h₀ k c (hf.conn_map ▸ hk)

theorem after_mutation (hP : ConnClosed P) (h : ConnsHold P m) (key : ConnMapKey) (now : Nat)
    (conn : VsockConnection) {conn' : VsockConnection} (hc : P conn') :
    ConnsHold P (m.after_mutation key now conn conn') := by
  obtain ⟨ca, hca, cf, hcf, hmap, -⟩ := after_mutation_spec m key now conn conn'
  -- the connection is acked, then perhaps killed
  have hpa : P ca := by
    rcases hca with rfl | ⟨-, -, rfl⟩
    · exact hc
    · exact hP.ack _ _ hc
  intro k c hk
  rw [hmap] at hk
  split_ifs at hk
  · cases hk
    rcases hcf with rfl | rfl
    · exact hpa
    · exact hP.kill ca hpa
  · exact h k c hk

theorem apply_conn_mutation (hP : ConnClosed P) (h : ConnsHold P m) {α : Type} (key : ConnMapKey)
    (now : Nat) (mut_fn : VsockConnection → VsockConnection × α)
    (hf : ∀ conn, P conn → P (mut_fn conn).1) : ConnsHold P (m.apply_conn_mutation key now mut_fn).1 := by
  rcases hk : m.conn_map[key]? with _ | conn
  · rw [apply_conn_mutation_none _ hk]
    exact h
  · rw [apply_conn_mutation_some _ hk]
    exact h.after_mutation hP key now conn (hf conn (h key conn hk))

theorem recv_loop (hP : ConnClosed P) (h : ConnsHold P m) (buf_len : Option Nat) (now fuel : Nat) :
    ConnsHold P (VsockMuxer.recv_loop buf_len now fuel m).1 := by
  induction fuel generalizing m with
  | zero => exact h
  | succ fuel ih =>
    unfold VsockMuxer.recv_loop
    split
    · exact h
    · exact h.pop
    · next key _ =>
      rcases hk : m.conn_map[key]? with _ | conn
      · rw [apply_conn_mutation_none _ hk]
        exact ih h.pop
      · rw [apply_conn_mutation_some _ hk, recv_conn_eq]
        simp only [Option.getD_some]
        have hm := h.after_mutation hP key now conn (hP.recv_pkt conn buf_len now (h key conn hk))
        -- popping the front item leaves the connections as they are
        split
        · split_ifs
          · exact hm.pop.remove_connection _
          · exact hm.remove_connection _
          · exact hm.pop
          · exact hm
        · split_ifs
          · exact ih hm.pop
          · exact ih hm

theorem recv_pkt (hP : ConnClosed P) (h : ConnsHold P m) (buf_len : Option Nat) (now fuel : Nat) :
    ConnsHold P (m.recv_pkt buf_len now fuel).1 := by
  unfold VsockMuxer.recv_pkt
  dsimp only
  split_ifs
  · have hr : ConnsHold P { m with rxq := MuxerRxQ.from_conn_map m.conn_map } := h.of_conn_map rfl
    exact hr.recv_loop hP buf_len now fuel
  · exact h.recv_loop hP buf_len now fuel

theorem handle_peer_request_pkt (hP : ConnClosed P) (h : ConnsHold P m) (pkt : PktHdr)
    (connect : Option HostStream) (now : Nat) :
    ConnsHold P (m.handle_peer_request_pkt pkt connect now) := by
  unfold VsockMuxer.handle_peer_request_pkt
  split_ifs
  · exact h.of_conn_map rfl
  · split
    · exact h.of_conn_map rfl
    · next stream =>
      have ha := h.add_connection hP ⟨pkt.dst_port, pkt.src_port⟩
        (hP.new_peer_init stream VSOCK_HOST_CID m.cid pkt.dst_port pkt.src_port pkt.buf_alloc) now
      split <;> rename_i heq <;> rw [heq] at ha
      · exact ha
      · exact ha.of_conn_map rfl

theorem send_pkt (hP : ConnClosed P) (h : ConnsHold P m) (pkt : PktHdr) (buf : Option (List UInt8))
    (connect : Option HostStream) (now : Nat) : ConnsHold P (m.send_pkt pkt buf connect now) := by
  unfold VsockMuxer.send_pkt
  dsimp only
  split_ifs
  · exact h.of_conn_map rfl
  · exact h
  · exact h.handle_peer_request_pkt hP pkt connect now
  · exact h.of_conn_map rfl
  · exact h.remove_connection _
  · exact h.apply_conn_mutation hP _ now _ fun conn hc => hP.send_pkt conn _ now hc

theorem handle_conn_event (hP : ConnClosed P) (h : ConnsHold P m) (key : ConnMapKey)
    (evset : EventSet) (now : Nat) : ConnsHold P (m.handle_conn_event key evset now) := by
  unfold VsockMuxer.handle_conn_event
  split_ifs
  · exact h.apply_conn_mutation hP key now _ fun conn hc => hP.notify conn evset hc
  · exact h

theorem handle_local_connect (hP : ConnClosed P) (h : ConnsHold P m) (peer_port : UInt32)
    (stream : HostStream) (now : Nat) : ConnsHold P (m.handle_local_connect peer_port stream now) := by
  unfold VsockMuxer.handle_local_connect
  split
  · next m' port heq =>
    exact (h.of_conn_map (allocate_local_port_frame heq).conn_map).add_connection hP _
      (hP.new_local_init stream VSOCK_HOST_CID m'.cid port peer_port) now
  · exact h

theorem handle_passfd_connect (hP : ConnClosed P) (h : ConnsHold P m) (peer_port : UInt32)
    (stream : HostStream) (nonblock_ok : Bool) (now : Nat) :
    ConnsHold P (m.handle_passfd_connect peer_port stream nonblock_ok now) := by
  unfold VsockMuxer.handle_passfd_connect
  split
  · next m' port heq =>
    have h' := h.of_conn_map (allocate_local_port_frame heq).conn_map
    split_ifs
    · exact h'.add_connection hP _ (hP.new_local_init stream VSOCK_HOST_CID m'.cid port peer_port) now
    · exact h'
  · exact h

theorem step (hP : ConnClosed P) (h : ConnsHold P m) : ∀ e, ConnsHold P (m.step e)
  | (.send_pkt pkt buf connect, now) => h.send_pkt hP pkt buf connect now
  | (.recv_pkt buf_len fuel, now) => h.recv_pkt hP buf_len now fuel
  | (.conn_event key evset, now) => h.handle_conn_event hP key evset now
  | (.local_connect peer_port stream, now) => h.handle_local_connect hP peer_port stream now
  | (.passfd_connect peer_port stream nonblock_ok, now) =>
    h.handle_passfd_connect hP peer_port stream nonblock_ok now
  | (.kill_connection key, _) => h.kill_connection hP key
  | (.remove_connection key, _) => h.remove_connection key
  | (.sweep_killq, now) => h.sweep_killq hP now

end ConnsHold

/-- What the connections the muxer makes have and every action keeps, every connection of a
reachable muxer has. -/
theorem Reachable.conns_hold {P : VsockConnection → Prop} (hP : ConnClosed P) {m : VsockMuxer}
    (h : m.Reachable) : ConnsHold P m := by
  induction h with
  | init hs => exact ConnsHold.initial hs
  | step e _ ih => exact ih.step hP e

/-! ## The RX queue invariant -/

/-- The connections are those the muxer makes, and a synced RX queue holds every connection with
pending RX. -/
structure Inv (m : VsockMuxer) : Prop where
  unacked : ∀ (key : ConnMapKey) (conn : VsockConnection), m.conn_map[key]? = some conn →
    Unacked conn
  synced : m.rxq.synced = true → ∀ (key : ConnMapKey) (conn : VsockConnection),
    m.conn_map[key]? = some conn →
    conn.has_pending_rx = true → .ConnRx key ∈ m.rxq.q

namespace Inv

variable {m : VsockMuxer}

theorem initial (h : Initial m) : m.Inv := by
  obtain ⟨cid, epoll, peer_backend, rfl⟩ := h
  exact ⟨fun _ _ hk => by simp [new] at hk, fun _ _ _ hk => by simp [new] at hk⟩

/-- The connections as they were, and a queue that kept its items while it stayed synced. -/
theorem grow {m' : VsockMuxer} (h : m.Inv) (hc : m'.conn_map = m.conn_map)
    (hr : m'.rxq.synced = true → m.rxq.synced = true ∧ ∀ rx ∈ m.rxq.q, rx ∈ m'.rxq.q) : m'.Inv :=
  ⟨fun key conn hk => h.unacked key conn (hc ▸ hk), fun hs key conn hk hp =>
    (hr hs).2 _ (h.synced (hr hs).1 key conn (hc ▸ hk) hp)⟩

theorem frame {m' : VsockMuxer} (h : m.Inv) (hf : Frame m m') : m'.Inv :=
  h.grow hf.conn_map fun hs => ⟨hf.rxq ▸ hs, fun _ hrx => hf.rxq ▸ hrx⟩

theorem push (h : m.Inv) (rx : MuxerRx) : { m with rxq := (m.rxq.push rx).1 }.Inv :=
  h.grow rfl fun hs => by
    obtain ⟨hs₀, extra, hq, -⟩ := MuxerRxQ.push_synced hs
    exact ⟨hs₀, fun rx' hrx => by simp only [hq]; exact List.mem_append_left _ hrx⟩

theorem enq_rst (h : m.Inv) (local_port peer_port : UInt32) : (m.enq_rst local_port peer_port).Inv :=
  h.push _

theorem kill_connection (h : m.Inv) (key : ConnMapKey) : (m.kill_connection key).Inv := by
  refine ⟨fun k conn hk => ?_, fun hs k conn hk hp => ?_⟩
  · rw [kill_connection_getElem?] at hk
    split_ifs at hk with hkey
    · obtain ⟨c, -, rfl⟩ := Option.map_eq_some_iff.mp hk
      exact Unacked.kill c
    · exact h.unacked k conn hk
  · rcases kill_connection_rxq m key with ⟨hq, c, hc, hpc⟩ | hq <;> rw [hq] at hs ⊢
    · -- the connection was queued already
      rw [kill_connection_getElem?] at hk
      split_ifs at hk with hkey
      · subst hkey
        exact h.synced hs key c hc hpc
      · exact h.synced hs k conn hk hp
    · -- the connection is queued now
      obtain ⟨hs₀, hq'⟩ := MuxerRxQ.push_conn_synced hs
      rw [hq']
      rw [kill_connection_getElem?] at hk
      split_ifs at hk with hkey
      · subst hkey
        simp
      · exact List.mem_append_left _ (h.synced hs₀ k conn hk hp)

theorem remove_connection (h : m.Inv) (key : ConnMapKey) : (m.remove_connection key).Inv := by
  refine ⟨fun k conn hk => ?_, fun hs k conn hk hp => ?_⟩ <;>
    rw [remove_connection_getElem?] at hk <;> split_ifs at hk
  · exact h.unacked k conn hk
  · rw [remove_connection_rxq] at hs ⊢
    exact h.synced hs k conn hk hp

theorem kill_steps {m' : VsockMuxer} (h : m.Inv) (hs : Relation.ReflTransGen KillStep m m') :
    m'.Inv := by
  induction hs with
  | refl => exact h
  | tail _ hstep ih =>
    rcases hstep with hf | ⟨key, rfl⟩
    · exact ih.frame hf
    · exact ih.kill_connection key

theorem sweep_killq (h : m.Inv) (now : Nat) : (m.sweep_killq now).Inv :=
  h.kill_steps (sweep_killq_kills m now)

/-- A connection the muxer makes, added under any key. -/
theorem add_connection (h : m.Inv) (key : ConnMapKey) {conn : VsockConnection} (hu : Unacked conn)
    (now : Nat) : (m.add_connection key conn now).1.Inv := by
  obtain ⟨m₀, hf, ⟨heq, -⟩ | ⟨-, hmap, hrxq⟩⟩ := add_connection_cases m key conn now
  · rw [heq]
    exact (h.sweep_killq now).frame hf
  · have h₀ := (h.sweep_killq now).frame hf
    refine ⟨fun k c hk => ?_, fun hs k c hk hp => ?_⟩ <;>
      rw [hmap, Std.HashMap.getElem?_insert] at hk <;> split_ifs at hk with hkey
    · cases hk
      exact hu
    · exact h₀.unacked k c hk
    · -- the new connection, pushed since it has pending RX
      cases hk
      simp only [beq_iff_eq] at hkey
      subst hkey
      rw [hrxq, if_pos hp] at hs ⊢
      exact (MuxerRxQ.push_conn_synced hs).2 ▸ by simp
    · rw [hrxq] at hs ⊢
      split_ifs at hs ⊢
      · obtain ⟨hs₀, hq⟩ := MuxerRxQ.push_conn_synced hs
        rw [hq]
        exact List.mem_append_left _ (h₀.synced hs₀ k c hk hp)
      · exact h₀.synced hs k c hk hp

/-- What follows a change of a connection into one the muxer may hold. -/
theorem after_mutation (h : m.Inv) {key : ConnMapKey} {conn conn' : VsockConnection}
    (hk : m.conn_map[key]? = some conn) (hu : Unacked conn') (now : Nat) :
    (m.after_mutation key now conn conn').Inv := by
  obtain ⟨ca, hca, cf, hcf, hmap, hrxq⟩ := after_mutation_spec m key now conn conn'
  have hua : Unacked ca := by
    rcases hca with rfl | ⟨-, -, rfl⟩
    · exact hu
    · exact hu.ack _
  refine ⟨fun k c hk' => ?_, fun hs k c hk' hp => ?_⟩ <;> rw [hmap] at hk' <;>
    split_ifs at hk' with hkey
  · cases hk'
    rcases hcf with rfl | rfl
    · exact hua
    · exact Unacked.kill ca
  · exact h.unacked k c hk'
  · -- the changed connection: queued before, or now
    cases hk'
    subst hkey
    obtain ⟨hs₀, extra, hq, hp'⟩ := hrxq hs
    rw [hq]
    rcases hp' hp with ⟨hpc, -⟩ | hin
    · exact List.mem_append_left _ (h.synced hs₀ key conn hk hpc)
    · exact List.mem_append_right _ hin
  · obtain ⟨hs₀, extra, hq, -⟩ := hrxq hs
    rw [hq]
    exact List.mem_append_left _ (h.synced hs₀ k c hk' hp)

/-- Popping an item that no connection with pending RX needs. -/
theorem pop (h : m.Inv) {rx : MuxerRx} (hfront : m.rxq.peek = some rx)
    (hrx : ∀ (key : ConnMapKey) (conn : VsockConnection), m.conn_map[key]? = some conn →
      conn.has_pending_rx = true → rx ≠ .ConnRx key) :
    { m with rxq := m.rxq.pop.2 }.Inv := by
  obtain ⟨rest, hq⟩ : ∃ rest, m.rxq.q = rx :: rest := by
    simp only [MuxerRxQ.peek] at hfront
    exact List.head?_eq_some_iff.mp hfront
  refine ⟨h.unacked, fun hs key conn hk hp => ?_⟩
  have hin := h.synced hs key conn hk hp
  simp only [MuxerRxQ.pop, hq, List.tail_cons]
  rw [hq] at hin
  rcases List.mem_cons.mp hin with heq | hin
  · exact absurd heq.symm (hrx key conn hk hp)
  · exact hin

/-- A `recv_pkt` round on the connection at the front of the queue, which was not acked: the
connection's item goes when it has nothing left. -/
theorem after_recv_pop (h : m.Inv) {key : ConnMapKey} {conn conn' : VsockConnection}
    (hk : m.conn_map[key]? = some conn) (hfront : m.rxq.peek = some (.ConnRx key))
    (hu : Unacked conn') (hnoack : ¬(conn.state = .LocalInit ∧ conn'.state = .Established))
    (hpop : conn'.has_pending_rx = false) (now : Nat) :
    { m.after_mutation key now conn conn' with
      rxq := (m.after_mutation key now conn conn').rxq.pop.2 }.Inv := by
  obtain ⟨rest, hq⟩ : ∃ rest, m.rxq.q = .ConnRx key :: rest := by
    simp only [MuxerRxQ.peek] at hfront
    exact List.head?_eq_some_iff.mp hfront
  obtain ⟨ca, hca, cf, -, hmap, hrxq⟩ := after_mutation_spec m key now conn conn'
  -- without an ack, the connection after the change is `conn'`
  obtain rfl : ca = conn' := by
    rcases hca with hca | ⟨h₁, h₂, -⟩
    · exact hca
    · exact absurd ⟨h₁, h₂⟩ hnoack
  refine ⟨(h.after_mutation hk hu now).unacked, fun hs k c hk' hp => ?_⟩
  obtain ⟨hs₀, extra, hq', hp'⟩ := hrxq hs
  simp only [MuxerRxQ.pop, hq', hq, List.cons_append, List.tail_cons]
  rw [hmap] at hk'
  split_ifs at hk' with hkey
  · -- the connection popped has pending RX again only if it was queued anew
    cases hk'
    subst hkey
    rcases hp' hp with ⟨-, hc'⟩ | hin
    · rw [hpop] at hc'
      cases hc'
    · exact List.mem_append_right _ hin
  · have hin := h.synced hs₀ k c hk' hp
    rw [hq] at hin
    rcases List.mem_cons.mp hin with heq | hin
    · cases heq
      exact absurd rfl hkey
    · exact List.mem_append_left _ hin

theorem recv_loop (h : m.Inv) (buf_len : Option Nat) (now fuel : Nat) :
    (VsockMuxer.recv_loop buf_len now fuel m).1.Inv := by
  induction fuel generalizing m with
  | zero => exact h
  | succ fuel ih =>
    unfold VsockMuxer.recv_loop
    split
    · exact h
    · next hpeek =>
      exact h.pop hpeek fun _ _ _ _ heq => by cases heq
    · next key hpeek =>
      rcases hk : m.conn_map[key]? with _ | conn
      · -- the connection is gone: its item goes
        rw [apply_conn_mutation_none _ hk]
        exact ih (h.pop hpeek fun k c hk' _ heq => by cases heq; rw [hk] at hk'; cases hk')
      · rw [apply_conn_mutation_some _ hk, recv_conn_eq]
        simp only [Option.getD_some]
        have hu := (h.unacked key conn hk).recv_pkt buf_len now
        have hnoack : ¬(conn.state = .LocalInit ∧
            (conn.recv_pkt buf_len now).1.state = .Established) := by
          rintro ⟨hl, he⟩
          rw [(h.unacked key conn hk).recv_pkt_state hl] at he
          cases he
        have hpopped := fun hpop => h.after_recv_pop hk hpeek hu hnoack hpop now
        have hkept := h.after_mutation hk hu now
        split
        · -- a packet: an RST ends its connection
          split_ifs with hrst hpop hpop
          · exact (hpopped (by simpa using hpop)).remove_connection _
          · exact hkept.remove_connection _
          · exact hpopped (by simpa using hpop)
          · exact hkept
        · -- no packet: on to the next item
          split_ifs with hpop
          · exact ih (hpopped (by simpa using hpop))
          · exact ih hkept

theorem recv_pkt (h : m.Inv) (buf_len : Option Nat) (now fuel : Nat) :
    (m.recv_pkt buf_len now fuel).1.Inv := by
  unfold VsockMuxer.recv_pkt
  dsimp only
  split_ifs
  · -- the queue rebuilt from the connections
    have hr : { m with rxq := MuxerRxQ.from_conn_map m.conn_map }.Inv :=
      ⟨h.unacked, fun hs _ _ hk hp => MuxerRxQ.from_conn_map_synced hs hk hp⟩
    exact hr.recv_loop buf_len now fuel
  · exact h.recv_loop buf_len now fuel

/-- An action on a connection that keeps the connections the muxer may hold. -/
theorem apply_conn_mutation (h : m.Inv) {α : Type} (key : ConnMapKey) (now : Nat)
    (mut_fn : VsockConnection → VsockConnection × α)
    (hf : ∀ conn, Unacked conn → Unacked (mut_fn conn).1) :
    (m.apply_conn_mutation key now mut_fn).1.Inv := by
  rcases hk : m.conn_map[key]? with _ | conn
  · rw [apply_conn_mutation_none _ hk]
    exact h
  · rw [apply_conn_mutation_some _ hk]
    exact h.after_mutation hk (hf conn (h.unacked key conn hk)) now

theorem handle_peer_request_pkt (h : m.Inv) (pkt : PktHdr) (connect : Option HostStream)
    (now : Nat) : (m.handle_peer_request_pkt pkt connect now).Inv := by
  unfold VsockMuxer.handle_peer_request_pkt
  split_ifs
  · exact h.enq_rst _ _
  · split
    · exact h.enq_rst _ _
    · next stream =>
      have ha := h.add_connection ⟨pkt.dst_port, pkt.src_port⟩ (Unacked.new_peer_init stream
        VSOCK_HOST_CID m.cid pkt.dst_port pkt.src_port pkt.buf_alloc) now
      split <;> rename_i heq <;> rw [heq] at ha
      · exact ha
      · exact ha.enq_rst _ _

theorem send_pkt (h : m.Inv) (pkt : PktHdr) (buf : Option (List UInt8))
    (connect : Option HostStream) (now : Nat) : (m.send_pkt pkt buf connect now).Inv := by
  unfold VsockMuxer.send_pkt
  dsimp only
  split_ifs
  · exact h.enq_rst _ _
  · exact h
  · exact h.handle_peer_request_pkt pkt connect now
  · exact h.enq_rst _ _
  · exact h.remove_connection _
  · exact h.apply_conn_mutation _ now _ fun conn hu => hu.send_pkt _ now

theorem handle_conn_event (h : m.Inv) (key : ConnMapKey) (evset : EventSet) (now : Nat) :
    (m.handle_conn_event key evset now).Inv := by
  unfold VsockMuxer.handle_conn_event
  split_ifs
  · exact h.apply_conn_mutation key now _ fun conn hu => hu.notify evset
  · exact h

theorem handle_local_connect (h : m.Inv) (peer_port : UInt32) (stream : HostStream) (now : Nat) :
    (m.handle_local_connect peer_port stream now).Inv := by
  unfold VsockMuxer.handle_local_connect
  split
  · next m' port heq =>
    exact (h.frame (allocate_local_port_frame heq)).add_connection _
      (Unacked.new_local_init stream VSOCK_HOST_CID m'.cid port peer_port) now
  · exact h

theorem handle_passfd_connect (h : m.Inv) (peer_port : UInt32) (stream : HostStream)
    (nonblock_ok : Bool) (now : Nat) : (m.handle_passfd_connect peer_port stream nonblock_ok now).Inv := by
  unfold VsockMuxer.handle_passfd_connect
  split
  · next m' port heq =>
    have h' := h.frame (allocate_local_port_frame heq)
    split_ifs
    · exact h'.add_connection _ (Unacked.new_local_init stream VSOCK_HOST_CID m'.cid port peer_port) now
    · exact h'
  · exact h

theorem step (h : m.Inv) : ∀ e, (m.step e).Inv
  | (.send_pkt pkt buf connect, now) => h.send_pkt pkt buf connect now
  | (.recv_pkt buf_len fuel, now) => h.recv_pkt buf_len now fuel
  | (.conn_event key evset, now) => h.handle_conn_event key evset now
  | (.local_connect peer_port stream, now) => h.handle_local_connect peer_port stream now
  | (.passfd_connect peer_port stream nonblock_ok, now) =>
    h.handle_passfd_connect peer_port stream nonblock_ok now
  | (.kill_connection key, _) => h.kill_connection key
  | (.remove_connection key, _) => h.remove_connection key
  | (.sweep_killq, now) => h.sweep_killq now

end Inv

theorem Reachable.inv {m : VsockMuxer} (h : m.Reachable) : m.Inv := by
  induction h with
  | init hs => exact Inv.initial hs
  | step e _ ih => exact ih.step e

end VsockMuxer

/-! ## A guest connection on a host port -/

/-- The muxer after the guest of CID 3 connects from its port 1234 to host port 2 ^ 30, the first
port that `allocate_local_port` hands out. -/
def guest_connected : VsockMuxer :=
  VsockMuxer.step (.new 3 [] true)
    (.send_pkt ⟨3, VSOCK_HOST_CID, 1234, 1073741824, VSOCK_TYPE_STREAM, VSOCK_OP_REQUEST, 0, 0, 65536, 0⟩
      none (some ⟨[], [], []⟩), 0)

theorem guest_connected_reachable : guest_connected.Reachable :=
  .step _ (.init ⟨3, [], true, rfl⟩)

theorem guest_connected_eq : guest_connected =
    ((VsockMuxer.new 3 [] true).add_connection ⟨1073741824, 1234⟩
      (.new_peer_init ⟨[], [], []⟩ VSOCK_HOST_CID 3 1073741824 1234 65536) 0).1 := by
  unfold guest_connected VsockMuxer.step VsockMuxer.send_pkt handle_peer_request_pkt
  dsimp only
  -- a stream packet for the host, on a key not yet in use, asking to connect
  rw [if_neg (by decide), if_neg (by decide), if_pos (by simp [VsockMuxer.new]), if_pos rfl,
    if_neg (by decide)]
  have hsize : (VsockMuxer.new 3 [] true).conn_map.size < MAX_CONNECTIONS := by
    simp [VsockMuxer.new, MAX_CONNECTIONS]
  rw [add_connection_idle rfl hsize rfl, add_connection_idle rfl hsize rfl]
  rfl

/-- The guest's connection is the one connection, and the muxer is otherwise as new. -/
theorem guest_connected_fields :
    guest_connected.conn_map = (∅ : Std.HashMap ConnMapKey VsockConnection).insert
      ⟨1073741824, 1234⟩ (.new_peer_init ⟨[], [], []⟩ VSOCK_HOST_CID 3 1073741824 1234 65536) ∧
    guest_connected.killq = default ∧ guest_connected.epoll = [] ∧
    guest_connected.local_port_set = ∅ ∧
    guest_connected.local_port_last = ((1 : UInt32) <<< 30) - 1 ∧ guest_connected.cid = 3 := by
  have hsize : (VsockMuxer.new 3 [] true).conn_map.size < MAX_CONNECTIONS := by
    simp [VsockMuxer.new, MAX_CONNECTIONS]
  rw [guest_connected_eq, add_connection_idle rfl hsize rfl]
  exact ⟨rfl, rfl, rfl, rfl, rfl, rfl⟩

/-- The next port to hand out is the guest's. -/
theorem guest_connected_next_port :
    next_local_port guest_connected.local_port_last = 1073741824 := by
  rw [guest_connected_fields.2.2.2.2.1]
  decide

/-- The host's connect to the guest's port 1234 replaces the guest's own connection. -/
theorem guest_connected_local_connect :
    (guest_connected.handle_local_connect 1234 ⟨[], [], []⟩ 0).conn_map[
        (⟨1073741824, 1234⟩ : ConnMapKey)]? =
      some (.new_local_init ⟨[], [], []⟩ VSOCK_HOST_CID 3 1073741824 1234) := by
  obtain ⟨hmap, hq, hep, hset, -, hcid⟩ := guest_connected_fields
  have hfree :
      guest_connected.local_port_set.contains (next_local_port guest_connected.local_port_last) =
        false := by
    simp [hset]
  have hsize : guest_connected.conn_map.size < MAX_CONNECTIONS := by
    simp [hmap, MAX_CONNECTIONS, Std.HashMap.size_insert]
  rw [handle_local_connect, allocate_local_port_next hfree]
  dsimp only
  -- the port handed out is the record's own, which the idle lemma sees through
  rw [add_connection_idle]
  · simp [guest_connected_next_port, hcid]
  · exact hq
  · exact hsize
  · exact hep

/-! ## The RX queue of a reachable muxer -/

/-- While the RX queue is synced every connection with pending RX is queued, in every reachable
state; and an RST that the queue cannot take is dropped only when it holds nothing but RSTs. -/
theorem rxq_synced_holds_pending {m : VsockMuxer} (h : m.Reachable) :
    (m.rxq.synced = true → ∀ (key : ConnMapKey) (conn : VsockConnection),
      m.conn_map[key]? = some conn → conn.has_pending_rx = true → .ConnRx key ∈ m.rxq.q) ∧
    ∀ local_port peer_port, (m.rxq.push (.RstPkt local_port peer_port)).2 = false →
      (m.enq_rst local_port peer_port).rxq.q = m.rxq.q ∧ ∀ rx ∈ m.rxq.q, rx.is_rst = true := by
  refine ⟨h.inv.synced, fun local_port peer_port hdrop => ?_⟩
  obtain ⟨hq, hrst⟩ := MuxerRxQ.push_dropped hdrop
  exact ⟨hq, hrst rfl⟩

theorem rxq_synced_holds_pending_guest_connected :
    guest_connected.Reachable ∧
      (guest_connected.rxq.synced = true → ∀ (key : ConnMapKey) (conn : VsockConnection),
        guest_connected.conn_map[key]? = some conn → conn.has_pending_rx = true →
        .ConnRx key ∈ guest_connected.rxq.q) :=
  ⟨guest_connected_reachable, (rxq_synced_holds_pending guest_connected_reachable).1⟩

/-! ## Keys handed out twice -/

/-- Guest-initiated connections never enter `local_port_set`: when a guest connection sits on the
port that `allocate_local_port` tries next, the host's connect command is handed that port and
adds its own connection under the live key. -/
theorem local_connect_reuses_live_key {m : VsockMuxer} {key : ConnMapKey}
    (hk : m.conn_map.contains key = true)
    (hfree : m.local_port_set.contains key.local_port = false)
    (hnext : next_local_port m.local_port_last = key.local_port) (stream : HostStream) (now : Nat) :
    ∃ m', m.allocate_local_port = some (m', key.local_port) ∧ m'.conn_map.contains key = true ∧
      m.handle_local_connect key.peer_port stream now =
        (m'.add_connection key
          (.new_local_init stream VSOCK_HOST_CID m.cid key.local_port key.peer_port) now).1 := by
  have ha := allocate_local_port_next (m := m) (by rw [hnext]; exact hfree)
  rw [hnext] at ha
  refine ⟨_, ha, hk, ?_⟩
  simp only [handle_local_connect, ha]

theorem local_connect_reuses_live_key_guest_connected :
    guest_connected.Reachable ∧ guest_connected.conn_map.contains ⟨1073741824, 1234⟩ = true ∧
    guest_connected.local_port_set.contains 1073741824 = false ∧
    next_local_port guest_connected.local_port_last = 1073741824 ∧
    (∃ m', guest_connected.allocate_local_port = some (m', 1073741824) ∧
      m'.conn_map.contains ⟨1073741824, 1234⟩ = true ∧
      guest_connected.handle_local_connect 1234 ⟨[], [], []⟩ 0 =
        (m'.add_connection ⟨1073741824, 1234⟩
          (.new_local_init ⟨[], [], []⟩ VSOCK_HOST_CID guest_connected.cid 1073741824 1234) 0).1) ∧
    (guest_connected.handle_local_connect 1234 ⟨[], [], []⟩ 0).conn_map[
        (⟨1073741824, 1234⟩ : ConnMapKey)]? =
      some (.new_local_init ⟨[], [], []⟩ VSOCK_HOST_CID 3 1073741824 1234) := by
  obtain ⟨hmap, -, -, hset, -, -⟩ := guest_connected_fields
  have hk : guest_connected.conn_map.contains ⟨1073741824, 1234⟩ = true := by simp [hmap]
  have hfree : guest_connected.local_port_set.contains 1073741824 = false := by simp [hset]
  exact ⟨guest_connected_reachable, hk, hfree, guest_connected_next_port,
    local_connect_reuses_live_key hk hfree guest_connected_next_port ⟨[], [], []⟩ 0,
    guest_connected_local_connect⟩

end KataContainers.Dragonball.Vsock.Muxer
