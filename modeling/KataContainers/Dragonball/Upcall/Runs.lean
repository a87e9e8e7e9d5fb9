import KataContainers.Dragonball.Upcall

/-!
# Runs of the upcall client

What holds of the upcall client after any sequence of events from the client that `new` and
`init` leave (`Client.initial`), with the connector, the checks, the sends and the reads each able
to fail at any step.

`Wf` is the shape of every client a run reaches (`upcall_client_wf`): epoll watches exactly the
current stream, so the `ops.remove(..).unwrap()` of `handle_stream_event` always finds the fd it
removes; every state past `WaitingServer` has a stream; a pending reconnect means the stream is
gone and an armed timer means a reconnect is pending; without a stream the timer is armed unless
the client has given up; and a callback is held only while a request is in flight. One lemma per
handler says what it does to such a client: a failed check or read ends in `Client.failed`.

`Observed` adds what the callers saw: the callbacks of the requests that `send_request` sent
with `Ok`. The callbacks the client has invoked, followed by the one it holds, are exactly those
in order (`callbacks_invoked_once`).
-/

namespace KataContainers.Dragonball.Upcall

namespace Client

variable {R : Type} {c : Client R}

/-- The shape of every client a run reaches. -/
structure Wf (c : Client R) : Prop where
  registered_eq : c.registered = c.stream.toList
  stream_of_connected : c.state ≠ .WaitingServer → c.stream.isSome
  no_stream_of_reconnect : c.in_reconnect = true → c.stream = none
  reconnect_of_armed : c.timer_armed = true → c.in_reconnect = true
  armed_or_gave_up : c.stream = none → c.timer_armed = true ∨ c.GaveUp
  busy_of_callback : c.result_callback.isSome → c.state = .ServiceBusy
  not_reconnect_error : c.state ≠ .ReconnectError

lemma initial_wf : (initial : Client R).Wf where
  registered_eq := rfl
  stream_of_connected _ := rfl
  no_stream_of_reconnect := nofun
  reconnect_of_armed := nofun
  armed_or_gave_up := nofun
  busy_of_callback := nofun
  not_reconnect_error := nofun

/-- What a failed check or read leaves once `handle_stream_event` has dropped the stream: the
client of `reconnect_on_error` with no stream, nothing in epoll, and its callback answered with
`UpcallReset`. -/
def failed (c : Client R) : Client R :=
  ({ c.reconnect_on_error with stream := none, registered := [] } : Client R).consume_callback
    .UpcallReset

/-- `consume_callback` moves the callback held, if any, to the invoked ones. -/
@[simp] lemma consume_callback_eq (c : Client R) (r : UpcallClientResponse R) :
    c.consume_callback r =
      { c with result_callback := none, invoked := c.invoked ++ c.result_callback.toList.map (·, r) } := by
  unfold consume_callback
  cases c
  split <;> simp_all

@[simp] lemma set_reconnect_in_reconnect (c : Client R) : c.set_reconnect.1.in_reconnect = true := by
  unfold set_reconnect
  dsimp only
  split_ifs with h <;> simp [h]

@[simp] lemma set_reconnect_stream (c : Client R) : c.set_reconnect.1.stream = c.stream := by
  unfold set_reconnect
  dsimp only
  split_ifs <;> rfl

@[simp] lemma set_reconnect_registered (c : Client R) :
    c.set_reconnect.1.registered = c.registered := by
  unfold set_reconnect
  dsimp only
  split_ifs <;> rfl

@[simp] lemma set_reconnect_result_callback (c : Client R) :
    c.set_reconnect.1.result_callback = c.result_callback := by
  unfold set_reconnect
  dsimp only
  split_ifs <;> rfl

@[simp] lemma set_reconnect_invoked (c : Client R) : c.set_reconnect.1.invoked = c.invoked := by
  unfold set_reconnect
  dsimp only
  split_ifs <;> rfl

/-- `reconnect_on_error` is `set_reconnect` at `WaitingServer`, as `set_reconnect` never fails. -/
lemma reconnect_on_error_eq (c : Client R) :
    c.reconnect_on_error = ({ c with state := .WaitingServer } : Client R).set_reconnect.1 := by
  unfold reconnect_on_error
  rcases h : ({ c with state := .WaitingServer } : Client R).set_reconnect with ⟨c', _ | ⟨⟩⟩
  · have := set_reconnect_snd ({ c with state := .WaitingServer } : Client R)
    rw [h] at this
    cases this
  · rfl

@[simp] lemma reconnect_on_error_in_reconnect (c : Client R) :
    c.reconnect_on_error.in_reconnect = true := by
  simp [reconnect_on_error_eq]

@[simp] lemma reconnect_on_error_stream (c : Client R) : c.reconnect_on_error.stream = c.stream := by
  simp [reconnect_on_error_eq]

@[simp] lemma reconnect_on_error_registered (c : Client R) :
    c.reconnect_on_error.registered = c.registered := by
  simp [reconnect_on_error_eq]

@[simp] lemma reconnect_on_error_invoked (c : Client R) :
    c.reconnect_on_error.invoked = c.invoked := by
  simp [reconnect_on_error_eq]

@[simp] lemma reconnect_on_error_result_callback (c : Client R) :
    c.reconnect_on_error.result_callback = c.result_callback := by
  simp [reconnect_on_error_eq]

/-- One stream event on a client with a stream and no reconnect pending: a failed check or read
ends in `failed`; otherwise the state moves on, or nothing happens. -/
lemma handle_stream_event_cases (hin : c.in_reconnect = false) (hs : c.stream = some s)
    (hreg : c.registered = [s]) (o : StreamOutcome R) :
    c.handle_stream_event o = c.failed ∨
      (c.state = .WaitingServer ∧ c.handle_stream_event o = { c with state := .WaitingService }) ∨
      (c.state = .WaitingService ∧ c.handle_stream_event o = { c with state := .ServiceConnected }) ∨
      (∃ r, c.state = .ServiceBusy ∧ c.handle_stream_event o =
        ({ c with state := .ServiceConnected } : Client R).consume_callback (.DevMgr r)) ∨
      ((c.state = .ServiceConnected ∨ c.state = .ReconnectError) ∧ c.handle_stream_event o = c) := by
  unfold handle_stream_event
  dsimp only
  -- one case per state, then the outcome of each check or of the read
  rcases hst : c.state
  · cases o.serverCheck <;> cases o.serviceStart <;>
      simp [failed, hs, hreg, hin, reconnect_on_error_eq]
  · cases o.serviceCheck <;> simp [failed, hs, hreg, hin, reconnect_on_error_eq]
  · simp [hin]
  · cases o.response with
    | none => simp [failed, hs, hreg, hin, reconnect_on_error_eq]
    | some r =>
      refine .inr (.inr (.inr (.inl ⟨r, rfl, ?_⟩)))
      simp [hin]
  · simp [hin]

/-- A request goes out only from `ServiceConnected`, which leaves the client busy with the
request's callback, if it has one; every other call leaves the client as it was. -/
lemma send_request_inner_cases (c : Client R) (callback : Option Nat) (sendOk : Bool) :
    (∃ e, c.send_request_inner callback sendOk = (c, .error e)) ∨
      (c.state = .ServiceConnected ∧ c.send_request_inner callback sendOk =
        ({ c with state := .ServiceBusy, result_callback := callback.or c.result_callback }, .ok ())) := by
  unfold send_request_inner
  rcases hst : c.state
  · exact .inl ⟨_, rfl⟩
  · exact .inl ⟨_, rfl⟩
  · cases sendOk
    · exact .inl ⟨_, rfl⟩
    · cases callback <;> exact .inr ⟨rfl, rfl⟩
  · exact .inl ⟨_, rfl⟩
  · exact .inl ⟨_, rfl⟩

namespace Wf

/-- The shape of a client with a stream: the stream alone in epoll, no reconnect pending, no timer,
and a callback only at `ServiceBusy`. -/
lemma of_stream (hs : c.stream = some s) (hreg : c.registered = [s]) (hin : c.in_reconnect = false)
    (ht : c.timer_armed = false) (hcb : c.result_callback.isSome → c.state = .ServiceBusy)
    (hne : c.state ≠ .ReconnectError) : c.Wf where
  registered_eq := by rw [hreg, hs]; rfl
  stream_of_connected _ := by rw [hs]; rfl
  no_stream_of_reconnect h := by rw [hin] at h; cases h
  reconnect_of_armed h := by rw [ht] at h; cases h
  armed_or_gave_up h := by rw [hs] at h; cases h
  busy_of_callback := hcb
  not_reconnect_error := hne

/-- The shape of a client without a stream: a reconnect pending at `WaitingServer`, nothing in epoll
and no callback; the timer is armed, or the client has given up. -/
lemma of_no_stream (hs : c.stream = none) (hreg : c.registered = []) (hin : c.in_reconnect = true)
    (hst : c.state = .WaitingServer) (hcb : c.result_callback = none) : c.Wf where
  registered_eq := by rw [hreg, hs]; rfl
  stream_of_connected h := absurd hst h
  no_stream_of_reconnect _ := hs
  reconnect_of_armed _ := hin
  armed_or_gave_up _ := by
    cases ht : c.timer_armed
    · exact .inr ⟨hin, ht, hs, hst⟩
    · exact .inl rfl
  busy_of_callback h := by rw [hcb] at h; cases h
  not_reconnect_error := by rw [hst]; nofun

/-- A client with a stream has no reconnect pending and no timer. -/
lemma in_reconnect_eq_false (hw : c.Wf) (hs : c.stream = some s) : c.in_reconnect = false := by
  cases h : c.in_reconnect
  · rfl
  · rw [hw.no_stream_of_reconnect h] at hs
    cases hs

lemma timer_armed_eq_false (hw : c.Wf) (hs : c.stream = some s) : c.timer_armed = false := by
  cases h : c.timer_armed
  · rfl
  · have hin := hw.reconnect_of_armed h
    rw [hw.in_reconnect_eq_false hs] at hin
    cases hin

lemma failed (c : Client R) : c.failed.Wf :=
  of_no_stream (by simp [Client.failed]) (by simp [Client.failed]) (by simp [Client.failed])
    (by simp [Client.failed]) (by simp [Client.failed])

lemma handle_stream_event (hw : c.Wf) (hs : c.stream = some s) (o : StreamOutcome R) :
    (c.handle_stream_event o).Wf := by
  have hin := hw.in_reconnect_eq_false hs
  have ht := hw.timer_armed_eq_false hs
  have hreg : c.registered = [s] := by rw [hw.registered_eq, hs]; rfl
  -- a callback is held only at `ServiceBusy`
  have hcb : c.state ≠ .ServiceBusy → c.result_callback.isSome → False :=
    fun hst h => hst (hw.busy_of_callback h)
  rcases handle_stream_event_cases hin hs hreg o with h | ⟨hst, h⟩ | ⟨hst, h⟩ | ⟨r, -, h⟩ | ⟨-, h⟩ <;>
    rw [h]
  · exact failed c
  · exact of_stream hs hreg hin ht (fun h => (hcb (by rw [hst]; nofun) h).elim) nofun
  · exact of_stream hs hreg hin ht (fun h => (hcb (by rw [hst]; nofun) h).elim) nofun
  · exact of_stream (by simpa using hs) (by simpa using hreg) (by simpa using hin)
      (by simpa using ht) (by simp) (by simp)
  · exact hw

/-- A client whose timer is armed waits at `WaitingServer` with no stream and no callback. -/
lemma of_armed (hw : c.Wf) (ht : c.timer_armed = true) :
    c.in_reconnect = true ∧ c.stream = none ∧ c.registered = [] ∧ c.state = .WaitingServer ∧
      c.result_callback = none := by
  have hin := hw.reconnect_of_armed ht
  have hs := hw.no_stream_of_reconnect hin
  have hst : c.state = .WaitingServer := by
    by_contra h
    have hsome := hw.stream_of_connected h
    rw [hs] at hsome
    cases hsome
  refine ⟨hin, hs, by rw [hw.registered_eq, hs]; rfl, hst, ?_⟩
  cases h : c.result_callback
  · rfl
  · have hbusy := hw.busy_of_callback (by rw [h]; rfl)
    rw [hst] at hbusy
    cases hbusy

lemma handle_reconnect_event (hw : c.Wf) (ht : c.timer_armed = true) (connectOk : Bool) :
    (c.handle_reconnect_event connectOk).Wf := by
  obtain ⟨-, hs, hreg, hst, hcb⟩ := hw.of_armed ht
  cases connectOk
  · -- no connection: the timer is armed again, or the count is spent
    exact of_no_stream (by simp [Client.handle_reconnect_event, server_connection_start, hs])
      (by simp [Client.handle_reconnect_event, server_connection_start, hs, hreg])
      (by simp [Client.handle_reconnect_event, server_connection_start, hs])
      (by simp [Client.handle_reconnect_event, server_connection_start, hs, hst])
      (by simp [Client.handle_reconnect_event, server_connection_start, hs, hcb])
  · -- the new stream is the one registered
    exact of_stream (s := c.connections)
      (by simp [Client.handle_reconnect_event, server_connection_start])
      (by simp [Client.handle_reconnect_event, server_connection_start, hreg])
      (by simp [Client.handle_reconnect_event, server_connection_start])
      (by simp [Client.handle_reconnect_event, server_connection_start])
      (by simp [Client.handle_reconnect_event, server_connection_start, hcb])
      (by simp [Client.handle_reconnect_event, server_connection_start, hst])

lemma send_request_inner (hw : c.Wf) (callback : Option Nat) (sendOk : Bool) :
    (c.send_request_inner callback sendOk).1.Wf := by
  rcases send_request_inner_cases c callback sendOk with ⟨e, h⟩ | ⟨hst, h⟩ <;> rw [h]
  · exact hw
  · -- the request goes out on the stream of `ServiceConnected`
    obtain ⟨s, hs⟩ := Option.isSome_iff_exists.mp (hw.stream_of_connected (by rw [hst]; nofun))
    have hreg : c.registered = [s] := by rw [hw.registered_eq, hs]; rfl
    exact of_stream (s := s) hs hreg (hw.in_reconnect_eq_false hs) (hw.timer_armed_eq_false hs)
      (fun _ => rfl) nofun

end Wf

lemma Wf.step (hw : c.Wf) (e : Event R) : (Upcall.step c e).Wf := by
  cases e with
  | stream o =>
    simp only [Upcall.step]
    split_ifs with hs
    · obtain ⟨s, hs⟩ := Option.isSome_iff_exists.mp hs
      exact hw.handle_stream_event hs o
    · exact hw
  | reconnect connectOk =>
    simp only [Upcall.step]
    split_ifs with ht
    · exact hw.handle_reconnect_event ht connectOk
    · exact hw
  | send_request callback sendOk => exact hw.send_request_inner callback sendOk

/-- The callbacks a client has invoked, in order, then the one it holds. -/
def callbacks (c : Client R) : List Nat :=
  c.invoked.map Prod.fst ++ c.result_callback.toList

@[simp] lemma callbacks_consume_callback (c : Client R) (r : UpcallClientResponse R) :
    (c.consume_callback r).callbacks = c.callbacks := by
  cases h : c.result_callback <;> simp [callbacks, h]

lemma callbacks_handle_stream_event (hw : c.Wf) (hs : c.stream = some s) (o : StreamOutcome R) :
    (c.handle_stream_event o).callbacks = c.callbacks := by
  have hreg : c.registered = [s] := by rw [hw.registered_eq, hs]; rfl
  rcases handle_stream_event_cases (hw.in_reconnect_eq_false hs) hs hreg o with
    h | ⟨-, h⟩ | ⟨-, h⟩ | ⟨r, -, h⟩ | ⟨-, h⟩
  · rw [h, failed, callbacks_consume_callback]
    simp [callbacks]
  · rw [h]
    rfl
  · rw [h]
    rfl
  · rw [h, callbacks_consume_callback]
    rfl
  · rw [h]

lemma callbacks_handle_reconnect_event (c : Client R) (connectOk : Bool) :
    (c.handle_reconnect_event connectOk).callbacks = c.callbacks := by
  unfold handle_reconnect_event
  dsimp only
  cases connectOk <;> simp only [server_connection_start] <;> split <;> simp [callbacks]

/-- A request sent from `ServiceConnected`, where no callback is held, adds its callback. -/
lemma callbacks_send_request_inner (hw : c.Wf) (hst : c.state = .ServiceConnected)
    (callback : Option Nat) :
    ({ c with state := .ServiceBusy, result_callback := callback.or c.result_callback } :
      Client R).callbacks = c.callbacks ++ callback.toList := by
  have hcb : c.result_callback = none := by
    cases h : c.result_callback
    · rfl
    · have hbusy := hw.busy_of_callback (by rw [h]; rfl)
      rw [hst] at hbusy
      cases hbusy
  cases callback <;> simp [callbacks, hcb]

end Client

/-- The client with what its callers have seen: the callbacks of the requests that `send_request`
sent with `Ok`, in order. `send_request_without_result` passes none. -/
structure Observed (R : Type) where
  client : Client R
  sent : List Nat

namespace Observed

variable {R : Type} {o : Observed R}

/-- One step of the client, recording the callback of a request that went out. -/
def step (o : Observed R) : Event R → Observed R
  | .send_request callback sendOk =>
    match o.client.send_request_inner callback sendOk with
    | (c, .ok ()) => ⟨c, o.sent ++ callback.toList⟩
    | (c, .error _) => ⟨c, o.sent⟩
  | e => ⟨Upcall.step o.client e, o.sent⟩

def initial : Observed R := ⟨Client.initial, []⟩

lemma step_client (o : Observed R) (e : Event R) : (o.step e).client = Upcall.step o.client e := by
  cases e with
  | send_request callback sendOk =>
    rcases Client.send_request_inner_cases o.client callback sendOk with ⟨err, h⟩ | ⟨-, h⟩ <;>
      simp [step, Upcall.step, h]
  | stream oc => rfl
  | reconnect connectOk => rfl

lemma step_callbacks (hw : o.client.Wf) (h : o.client.callbacks = o.sent) (e : Event R) :
    (o.step e).client.callbacks = (o.step e).sent := by
  cases e with
  | stream oc =>
    show (Upcall.step o.client (.stream oc)).callbacks = o.sent
    simp only [Upcall.step]
    split_ifs with hs
    · obtain ⟨s, hs⟩ := Option.isSome_iff_exists.mp hs
      rw [Client.callbacks_handle_stream_event hw hs, h]
    · exact h
  | reconnect connectOk =>
    show (Upcall.step o.client (.reconnect connectOk)).callbacks = o.sent
    simp only [Upcall.step]
    split_ifs
    · rw [Client.callbacks_handle_reconnect_event, h]
    · exact h
  | send_request callback sendOk =>
    rcases Client.send_request_inner_cases o.client callback sendOk with ⟨err, hr⟩ | ⟨hst, hr⟩
    · simpa [step, hr] using h
    · simp only [step, hr]
      rw [Client.callbacks_send_request_inner hw hst, h]

end Observed

lemma Observed.reachable_client {R : Type} {o : Observed R}
    (h : Transition.Reachable (· = Observed.initial) Observed.step o) :
    Transition.Reachable (· = Client.initial) Upcall.step o.client := by
  induction h with
  | init hs => exact .init (by rw [hs]; rfl)
  | step e _ ih => exact (Observed.step_client _ e) ▸ ih.step e

/-- Every client a run reaches, whatever fails along it, has the shape `Wf`: epoll watches exactly
its stream, a connected state has a stream, a pending reconnect has none, an armed timer has a
reconnect pending, without a stream the timer is armed unless the client has given up, and a
callback is held only while a request is in flight. -/
theorem upcall_client_wf {R : Type} {c : Client R}
    (h : Transition.Reachable (· = Client.initial) step c) : c.Wf :=
  h.invariant (fun _ hs => hs ▸ Client.initial_wf) fun _ e hw => hw.step e

/-- The client connects, a request with callback `7` goes out, its response comes back, and the
next read fails. -/
def request_then_failure : List (Event Unit) :=
  [.stream ⟨true, true, false, none⟩, .stream ⟨false, false, true, none⟩, .send_request (some 7) true,
   .stream ⟨false, false, false, some ()⟩, .send_request (some 8) true,
   .stream ⟨false, false, false, none⟩]

theorem upcall_client_wf_request_then_failure :
    (Transition.run step Client.initial request_then_failure).Wf := by
  have h0 : Transition.Reachable (· = Client.initial) step (Client.initial : Client Unit) := .init rfl
  exact upcall_client_wf (h0.run request_then_failure)

/-- The callbacks the client has invoked, followed by the one it holds, are the callbacks of the
requests that `send_request` sent with `Ok`, in the order of the requests: each such callback is
invoked once, in turn, except the last one while its request is in flight, and no other callback
is ever invoked. -/
theorem callbacks_invoked_once {R : Type} {o : Observed R}
    (h : Transition.Reachable (· = Observed.initial) Observed.step o) :
    o.client.invoked.map Prod.fst ++ o.client.result_callback.toList = o.sent ∧
      (o.client.result_callback.isSome → o.client.state = .ServiceBusy) := by
  -- the shape of the client carries the count of callbacks from step to step
  have hinv := h.invariant (I := fun o : Observed R => o.client.Wf ∧ o.client.callbacks = o.sent)
    (fun _ hs => by rw [hs]; exact ⟨Client.initial_wf, rfl⟩)
    fun o e hi => ⟨(Observed.step_client o e) ▸ hi.1.step e, Observed.step_callbacks hi.1 hi.2 e⟩
  exact ⟨hinv.2, hinv.1.busy_of_callback⟩

theorem callbacks_invoked_once_request_then_failure :
    (Transition.run Observed.step Observed.initial request_then_failure).client.invoked.map
        Prod.fst ++
      (Transition.run Observed.step Observed.initial request_then_failure).client.result_callback.toList =
      (Transition.run Observed.step Observed.initial request_then_failure).sent ∧
    ((Transition.run Observed.step Observed.initial request_then_failure).client.result_callback.isSome →
      (Transition.run Observed.step Observed.initial request_then_failure).client.state =
        .ServiceBusy) := by
  have h0 : Transition.Reachable (· = Observed.initial) Observed.step (Observed.initial : Observed Unit) :=
    .init rfl
  exact callbacks_invoked_once (h0.run request_then_failure)

example : (Transition.run Observed.step Observed.initial request_then_failure).sent = [7, 8] ∧
    (Transition.run Observed.step Observed.initial request_then_failure).client.invoked =
      [(7, .DevMgr ()), (8, .UpcallReset)] := by
  decide

end KataContainers.Dragonball.Upcall
