import KataContainers.Dragonball.Vsock.Muxer

/-!
# What each operation of the muxer does

One lemma per operation of `VsockMuxer`, stating what it may change, so that the invariants of
`MuxerRuns` never unfold the operations. `Frame m m'` says that `m'` agrees with `m` on the
connections and the RX queue; the listeners, the answers of epoll still to come and the kill
queue are what the other operations change. `kill_connection` kills one connection and queues it
unless it had pending RX (`kill_connection_rxq`); `after_mutation_spec` says what follows a
change of a connection, and how the RX queue grows with it.
-/

namespace KataContainers.Dragonball.Vsock.Muxer

open Csm

/-- `m'` agrees with `m` on the connections and the RX queue. -/
structure Frame (m m' : VsockMuxer) : Prop where
  conn_map : m'.conn_map = m.conn_map
  rxq : m'.rxq = m.rxq

theorem Frame.refl (m : VsockMuxer) : Frame m m := ⟨rfl, rfl⟩

theorem Frame.trans {m m' m'' : VsockMuxer} (h : Frame m m') (h' : Frame m' m'') : Frame m m'' :=
  ⟨h'.conn_map.trans h.conn_map, h'.rxq.trans h.rxq⟩

namespace VsockMuxer

variable {m : VsockMuxer} {key : ConnMapKey}

theorem epoll_ctl_frame (m : VsockMuxer) : Frame m m.epoll_ctl.1 := by
  unfold epoll_ctl
  split <;> exact ⟨rfl, rfl⟩

theorem add_listener_frame (m : VsockMuxer) (key : ConnMapKey) (evset : EventSet) :
    Frame m (m.add_listener key evset).1 := by
  have h := epoll_ctl_frame m
  unfold add_listener
  split <;> rename_i heq <;> rw [heq] at h <;> exact ⟨h.conn_map, h.rxq⟩

theorem remove_listener_frame (m : VsockMuxer) (key : ConnMapKey) :
    Frame m (m.remove_listener key) := by
  unfold remove_listener
  split
  · exact (⟨rfl, rfl⟩ : Frame m { m with listener_map := m.listener_map.erase key }).trans
      (epoll_ctl_frame _)
  · exact .refl m

/-! ## Killing and removing -/

theorem kill_connection_conn_map (m : VsockMuxer) (key : ConnMapKey) :
    (m.kill_connection key).conn_map = m.conn_map.modify key VsockConnection.kill := by
  unfold kill_connection
  dsimp only
  split_ifs <;> rfl

@[simp] theorem kill_connection_getElem? (m : VsockMuxer) (key k : ConnMapKey) :
    (m.kill_connection key).conn_map[k]? =
      if key = k then m.conn_map[k]?.map VsockConnection.kill else m.conn_map[k]? := by
  rw [kill_connection_conn_map, Std.HashMap.getElem?_modify]
  split_ifs with h₁ h₂ h₂ <;> simp_all

/-- The RX queue after a kill: as it was, when the connection had pending RX, or with the
connection pushed. -/
theorem kill_connection_rxq (m : VsockMuxer) (key : ConnMapKey) :
    ((m.kill_connection key).rxq = m.rxq ∧
        ∃ conn, m.conn_map[key]? = some conn ∧ conn.has_pending_rx = true) ∨
      (m.kill_connection key).rxq = (m.rxq.push (.ConnRx key)).1 := by
  unfold kill_connection
  dsimp only
  split <;> rename_i conn hk
  · split_ifs with hq
    · exact .inr rfl
    · exact .inl ⟨rfl, conn, hk, by simpa using hq⟩
  · exact .inr (by simp)

theorem remove_connection_conn_map (m : VsockMuxer) (key : ConnMapKey) :
    (m.remove_connection key).conn_map =
      if m.conn_map.contains key then m.conn_map.erase key else m.conn_map := by
  unfold remove_connection
  dsimp only
  split_ifs
  · exact (remove_listener_frame _ key).conn_map
  · rfl

@[simp] theorem remove_connection_getElem? (m : VsockMuxer) (key k : ConnMapKey) :
    (m.remove_connection key).conn_map[k]? = if key = k then none else m.conn_map[k]? := by
  rw [remove_connection_conn_map]
  split_ifs with hc hk hk
  · simp [hk]
  · simp [Std.HashMap.getElem?_erase, hk]
  · -- no connection at the key: nothing to remove
    subst hk
    rw [Std.HashMap.contains_eq_isSome_getElem?] at hc
    exact Option.not_isSome_iff_eq_none.mp hc
  · rfl

theorem remove_connection_rxq (m : VsockMuxer) (key : ConnMapKey) :
    (m.remove_connection key).rxq = m.rxq := by
  unfold remove_connection
  split
  · exact (remove_listener_frame _ key).rxq
  · rfl

/-! ## Listeners and what follows a change -/

/-- An `epoll_ctl` call takes at most one answer, and a failed one takes one. -/
theorem epoll_ctl_epoll (m : VsockMuxer) :
    m.epoll_ctl.1.epoll.length ≤ m.epoll.length ∧
      (m.epoll_ctl.2 = false → m.epoll_ctl.1.epoll.length < m.epoll.length) := by
  unfold epoll_ctl
  split <;> rename_i heq
  · simp [heq]
  · exact ⟨le_refl _, fun h => by cases h⟩

theorem remove_listener_epoll (m : VsockMuxer) (key : ConnMapKey) :
    (m.remove_listener key).epoll.length ≤ m.epoll.length := by
  unfold remove_listener
  split
  · exact (epoll_ctl_epoll _).1
  · exact le_refl _

theorem add_listener_epoll (m : VsockMuxer) (key : ConnMapKey) (evset : EventSet) :
    (m.add_listener key evset).1.epoll.length ≤ m.epoll.length ∧
      ∀ e, (m.add_listener key evset).2 = .error e →
        (m.add_listener key evset).1.epoll.length < m.epoll.length := by
  have he := epoll_ctl_epoll m
  unfold add_listener
  split <;> rename_i heq <;> rw [heq] at he
  · exact ⟨he.1, fun _ h => by cases h⟩
  · exact ⟨he.1, fun _ _ => he.2 rfl⟩

@[simp] theorem kill_connection_epoll (m : VsockMuxer) (key : ConnMapKey) :
    (m.kill_connection key).epoll = m.epoll := by
  unfold kill_connection
  dsimp only
  split_ifs <;> rfl

/-- Updating a listener changes at most the listeners and the `epoll_ctl` answers, or takes a
failed answer and kills the connection. -/
theorem update_listener_spec (m : VsockMuxer) (key : ConnMapKey) (evset : EventSet) :
    ∃ m₀, Frame m m₀ ∧ m₀.epoll.length ≤ m.epoll.length ∧ (m.update_listener key evset = m₀ ∨
      m.update_listener key evset = m₀.kill_connection key ∧ m₀.epoll.length < m.epoll.length) := by
  unfold update_listener
  split
  · exact ⟨_, remove_listener_frame m key, remove_listener_epoll m key, .inl rfl⟩
  · split
    · split
      · -- the listener changes its events
        have h := epoll_ctl_frame { m with listener_map := m.listener_map.insert key evset }
        have he := epoll_ctl_epoll { m with listener_map := m.listener_map.insert key evset }
        split <;> rename_i heq <;> rw [heq] at h he
        · exact ⟨_, ⟨h.conn_map, h.rxq⟩, he.1, .inl rfl⟩
        · exact ⟨_, ⟨h.conn_map, h.rxq⟩, he.1, .inr ⟨rfl, he.2 rfl⟩⟩
      · exact ⟨m, .refl m, le_refl _, .inl rfl⟩
    · -- the listener comes back
      have h := add_listener_frame m key evset
      have he := add_listener_epoll m key evset
      split <;> rename_i heq <;> rw [heq] at h he
      · exact ⟨_, h, he.1, .inl rfl⟩
      · exact ⟨_, h, he.1, .inr ⟨rfl, he.2 _ rfl⟩⟩

/-- Updating a listener changes at most the listeners, or kills the connection. -/
theorem update_listener_cases (m : VsockMuxer) (key : ConnMapKey) (evset : EventSet) :
    ∃ m₀, Frame m m₀ ∧ (m.update_listener key evset = m₀ ∨
      m.update_listener key evset = m₀.kill_connection key) := by
  obtain ⟨m₀, hf, -, hres | ⟨hres, -⟩⟩ := update_listener_spec m key evset
  · exact ⟨m₀, hf, .inl hres⟩
  · exact ⟨m₀, hf, .inr hres⟩

/-- The ack changes only the host stream, or kills the connection. -/
theorem ack_host_end_cases (conn : VsockConnection) (local_port : UInt32) :
    ∃ stream, ack_host_end conn local_port = { conn with stream } ∨
      ack_host_end conn local_port = VsockConnection.kill { conn with stream } := by
  unfold ack_host_end
  dsimp only
  split <;> rename_i c r heq
  all_goals
    have hc := congrArg Prod.fst heq
    rw [VsockConnection.send_bytes_raw_frame] at hc
    subst hc
  · split_ifs
    · exact ⟨_, .inl rfl⟩
    · exact ⟨_, .inr rfl⟩
  · exact ⟨_, .inr rfl⟩

/-- The tail of `after_mutation`: with `ca` in the map at `key` and the RX queue grown,
updating the listener may kill the connection, which then is queued unless it had pending RX. -/
theorem update_listener_after (m m₃ : VsockMuxer) (key : ConnMapKey) (evset : EventSet)
    (conn ca : VsockConnection) (hmap : m₃.conn_map = m.conn_map.insert key ca)
    (hrxq : m₃.rxq.synced = true → m.rxq.synced = true ∧ ∃ extra, m₃.rxq.q = m.rxq.q ++ extra ∧
      (ca.has_pending_rx = true → conn.has_pending_rx = true ∨ .ConnRx key ∈ extra)) :
    ∃ cf, (cf = ca ∨ cf = ca.kill) ∧
      (∀ k, (m₃.update_listener key evset).conn_map[k]? =
        if key = k then some cf else m.conn_map[k]?) ∧
      ((m₃.update_listener key evset).rxq.synced = true →
        m.rxq.synced = true ∧ ∃ extra, (m₃.update_listener key evset).rxq.q = m.rxq.q ++ extra ∧
        (cf.has_pending_rx = true →
          conn.has_pending_rx = true ∧ ca.has_pending_rx = true ∨ .ConnRx key ∈ extra)) := by
  have hca : m₃.conn_map[key]? = some ca := by simp [hmap]
  obtain ⟨m₀, hf, hres | hres⟩ := update_listener_cases m₃ key evset <;> rw [hres]
  · -- only the listener changed
    refine ⟨ca, .inl rfl, fun k => ?_, fun hs => ?_⟩
    · simp [hf.conn_map, hmap, Std.HashMap.getElem?_insert]
    · rw [hf.rxq] at hs ⊢
      obtain ⟨hs₀, extra, hq, hp⟩ := hrxq hs
      exact ⟨hs₀, extra, hq, fun hc => (hp hc).imp (fun h => ⟨h, hc⟩) id⟩
  · -- the listener could not be updated: the connection is killed
    refine ⟨ca.kill, .inr rfl, fun k => ?_, fun hs => ?_⟩
    · rw [kill_connection_getElem?, hf.conn_map, hmap]
      split_ifs with hk
      · subst hk
        simp
      · simp [Std.HashMap.getElem?_insert, hk]
    · rcases kill_connection_rxq m₀ key with ⟨hq₀, c, hc, hpc⟩ | hq₀ <;> rw [hq₀] at hs ⊢
      · -- it had pending RX, and was queued, or pending before the change
        rw [hf.rxq] at hs ⊢
        rw [hf.conn_map, hca] at hc
        cases hc
        obtain ⟨hs₀, extra, hq, hp⟩ := hrxq hs
        exact ⟨hs₀, extra, hq, fun _ => (hp hpc).imp (fun h => ⟨h, hpc⟩) id⟩
      · -- it is queued now
        obtain ⟨hs₁, hq⟩ := MuxerRxQ.push_conn_synced hs
        rw [hf.rxq] at hs₁ hq ⊢
        obtain ⟨hs₀, extra, hq₀, -⟩ := hrxq hs₁
        exact ⟨hs₀, extra ++ [.ConnRx key], by rw [hq, hq₀, List.append_assoc],
          fun _ => .inr (by simp)⟩

/-- What follows a change of the connection at `key` from `conn` to `conn'`: the connection is
acked (`ca`) and may then be killed (`cf`); the RX queue, if still synced, has grown at the back,
and holds the connection when it has pending RX that it did not have before. -/
theorem after_mutation_spec (m : VsockMuxer) (key : ConnMapKey) (now : Nat)
    (conn conn' : VsockConnection) :
    ∃ ca, (ca = conn' ∨ conn.state = .LocalInit ∧ conn'.state = .Established ∧
        ca = ack_host_end conn' key.local_port) ∧
      ∃ cf, (cf = ca ∨ cf = ca.kill) ∧
      (∀ k, (m.after_mutation key now conn conn').conn_map[k]? =
        if key = k then some cf else m.conn_map[k]?) ∧
      ((m.after_mutation key now conn conn').rxq.synced = true →
        m.rxq.synced = true ∧ ∃ extra, (m.after_mutation key now conn conn').rxq.q = m.rxq.q ++ extra ∧
        (cf.has_pending_rx = true →
          conn.has_pending_rx = true ∧ ca.has_pending_rx = true ∨ .ConnRx key ∈ extra)) := by
  unfold after_mutation
  dsimp only
  generalize hca : (if conn.state = .LocalInit ∧ conn'.state = .Established then
    ack_host_end conn' key.local_port else conn') = ca
  have hca' : ca = conn' ∨ conn.state = .LocalInit ∧ conn'.state = .Established ∧
      ca = ack_host_end conn' key.local_port := by
    subst hca
    split_ifs with h
    · exact .inr ⟨h.1, h.2, rfl⟩
    · exact .inl rfl
  refine ⟨ca, hca', update_listener_after m _ key _ conn ca (by split_ifs <;> rfl) fun hs => ?_⟩
  -- the kill queue aside, the connection is pushed when it newly has pending RX
  have hkillq : ∀ (c : Prop) [Decidable c] (m' : VsockMuxer) killq,
      (if c then { m' with killq } else m').rxq = m'.rxq := fun _ _ _ _ => by split <;> rfl
  simp only [hkillq] at hs ⊢
  split_ifs at hs ⊢ with hnew
  · obtain ⟨hs₀, hq⟩ := MuxerRxQ.push_conn_synced hs
    exact ⟨hs₀, [.ConnRx key], hq, fun _ => .inr (by simp)⟩
  · refine ⟨hs, [], by simp, fun hc => .inl ?_⟩
    simpa [hc] using hnew

/-- A change that acks no host end and gives no new pending RX only updates the map, the kill
queue and the listener. -/
theorem after_mutation_quiet (m : VsockMuxer) (key : ConnMapKey) (now : Nat)
    {conn conn' : VsockConnection} (hack : ¬(conn.state = .LocalInit ∧ conn'.state = .Established))
    (hnew : conn'.has_pending_rx = true → conn.has_pending_rx = true) :
    ∃ killq, m.after_mutation key now conn conn' =
      { m with conn_map := m.conn_map.insert key conn', killq }.update_listener key
        conn'.get_polled_evset := by
  have hpush : (!conn.has_pending_rx && conn'.has_pending_rx) = false := by
    cases h : conn'.has_pending_rx
    · simp
    · simp [hnew h]
  unfold after_mutation
  dsimp only
  rw [if_neg hack, hpush, if_neg Bool.false_ne_true]
  split_ifs
  · exact ⟨_, rfl⟩
  · exact ⟨m.killq, rfl⟩

theorem apply_conn_mutation_none {α : Type} (mut_fn : VsockConnection → VsockConnection × α)
    (h : m.conn_map[key]? = none) (now : Nat) : m.apply_conn_mutation key now mut_fn = (m, none) := by
  simp [apply_conn_mutation, h]

theorem apply_conn_mutation_some {α : Type} (mut_fn : VsockConnection → VsockConnection × α)
    {conn : VsockConnection} (h : m.conn_map[key]? = some conn) (now : Nat) :
    m.apply_conn_mutation key now mut_fn =
      (m.after_mutation key now conn (mut_fn conn).1, some (mut_fn conn).2) := by
  simp [apply_conn_mutation, h]

theorem recv_conn_eq (buf_len : Option Nat) (now : Nat) (conn : VsockConnection) :
    recv_conn buf_len now conn = ((conn.recv_pkt buf_len now).1,
      ((conn.recv_pkt buf_len now).2, !(conn.recv_pkt buf_len now).1.has_pending_rx)) := rfl

/-! ## Sweeping the kill queue and adding a connection -/

/-- One change that sweeping the kill queue may make: the kill queue only, or a kill. -/
def KillStep (m m' : VsockMuxer) : Prop := Frame m m' ∨ ∃ key, m' = m.kill_connection key

theorem pop_expired_kills (now : Nat) (n : Nat) (m : VsockMuxer) :
    Relation.ReflTransGen KillStep m (sweep_killq.pop_expired now n m) := by
  induction n generalizing m with
  | zero => exact .refl
  | succ n ih =>
    unfold sweep_killq.pop_expired
    split
    · next key killq _ =>
      -- the item popped, then the kill if the connection has indeed expired
      refine .head (.inl ⟨rfl, rfl⟩ : KillStep m { m with killq }) ?_
      dsimp only
      split
      · exact .head (.inr ⟨key, rfl⟩) (ih _)
      · exact ih _
    · exact .refl

theorem sweep_killq_kills (m : VsockMuxer) (now : Nat) :
    Relation.ReflTransGen KillStep m (m.sweep_killq now) := by
  unfold sweep_killq
  generalize 1 = fuel
  induction fuel generalizing m with
  | zero =>
    unfold sweep_killq.sweep
    exact pop_expired_kills now _ m
  | succ n ih =>
    unfold sweep_killq.sweep
    have hpop := pop_expired_kills now (m.killq.q.length) m
    dsimp only
    generalize sweep_killq.pop_expired now m.killq.q.length m = m' at hpop ⊢
    cases hc : m'.killq.is_empty && !m'.killq.is_synced
    · exact hpop
    · -- the kill queue is rebuilt, and swept again
      dsimp only
      have hrebuild : KillStep m' { m' with killq := MuxerKillQ.from_conn_map m'.conn_map now } :=
        .inl ⟨rfl, rfl⟩
      exact hpop.trans (.head hrebuild (ih _))

/-- What adding a connection does after the sweep: nothing more but listeners when it fails, and
otherwise inserts the connection, queued when it has pending RX. -/
theorem add_connection_cases (m : VsockMuxer) (key : ConnMapKey) (conn : VsockConnection)
    (now : Nat) :
    ∃ m₀, Frame (m.sweep_killq now) m₀ ∧
      ((m.add_connection key conn now).1 = m₀ ∧ (m.add_connection key conn now).2 ≠ .ok () ∨
        (m.add_connection key conn now).2 = .ok () ∧
        (m.add_connection key conn now).1.conn_map = m₀.conn_map.insert key conn ∧
        (m.add_connection key conn now).1.rxq =
          if conn.has_pending_rx then (m₀.rxq.push (.ConnRx key)).1 else m₀.rxq) := by
  unfold add_connection
  dsimp only
  split
  · exact ⟨_, .refl _, .inl ⟨rfl, by simp⟩⟩
  · have hf := add_listener_frame (m.sweep_killq now) key conn.get_polled_evset
    split <;> rename_i heq <;> rw [heq] at hf
    · refine ⟨_, hf, .inr ⟨rfl, ?_, ?_⟩⟩ <;> split_ifs <;> rfl
    · exact ⟨_, hf, .inl ⟨rfl, by simp⟩⟩

/-- A connection added is in the map, whatever was there before under its key. -/
theorem add_connection_ok {conn : VsockConnection} {now : Nat}
    (h : (m.add_connection key conn now).2 = .ok ()) :
    (m.add_connection key conn now).1.conn_map[key]? = some conn := by
  obtain ⟨m₀, -, ⟨-, hne⟩ | ⟨-, hmap, -⟩⟩ := add_connection_cases m key conn now
  · exact absurd h hne
  · simp [hmap]

/-- With nothing in the kill queue the sweep does nothing. -/
theorem sweep_killq_idle (h : m.killq = default) (now : Nat) : m.sweep_killq now = m := by
  simp [sweep_killq, sweep_killq.sweep, sweep_killq.pop_expired, h, default, MuxerKillQ.is_empty,
    MuxerKillQ.is_synced]

/-- An idle muxer (no kill queue, room for one more, epoll answering yes) adds a connection
under its key, whatever was there before. -/
theorem add_connection_idle {conn : VsockConnection} (hq : m.killq = default)
    (hsize : m.conn_map.size < MAX_CONNECTIONS) (hep : m.epoll = []) (now : Nat) :
    m.add_connection key conn now =
      ({ m with
          listener_map := m.listener_map.insert key conn.get_polled_evset
          rxq := if conn.has_pending_rx then (m.rxq.push (.ConnRx key)).1 else m.rxq
          conn_map := m.conn_map.insert key conn }, .ok ()) := by
  simp only [add_connection, sweep_killq_idle hq, add_listener, epoll_ctl, hep]
  rw [if_neg (by omega)]
  split_ifs <;> rfl

/-! ## Host ports -/

/-- The next candidate, when free, is the port handed out. -/
theorem allocate_local_port_next
    (h : m.local_port_set.contains (next_local_port m.local_port_last) = false) :
    m.allocate_local_port = some
      ({ m with
          local_port_last := next_local_port m.local_port_last
          local_port_set := m.local_port_set.insert (next_local_port m.local_port_last) },
        next_local_port m.local_port_last) := by
  simp [allocate_local_port, allocate_local_port.go, h]

theorem allocate_local_port_frame {m' : VsockMuxer} {port : UInt32}
    (h : m.allocate_local_port = some (m', port)) : Frame m m' := by
  unfold allocate_local_port at h
  generalize 2 ^ 30 = n at h
  induction n generalizing m with
  | zero => cases h
  | succ n ih =>
    simp only [allocate_local_port.go] at h
    split_ifs at h
    · exact (⟨rfl, rfl⟩ : Frame m { m with local_port_last := next_local_port m.local_port_last }).trans
        (ih h)
    · cases h
      exact ⟨rfl, rfl⟩

end VsockMuxer

end KataContainers.Dragonball.Vsock.Muxer
