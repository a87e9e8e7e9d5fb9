import KataContainers.Lib.Transition

/-!
# The upcall client

Model of the upcall client of `src/dragonball/src/dbs_upcall/src/lib.rs`: the state and the
callback of `UpcallClientInfo`, the requests of `UpcallClient::send_request_inner`, and the
`UpcallEpollHandler`, with its reconnect timer, its `in_reconnect` flag and its lifetime count
`reconnect_time`. The environment chooses each step (`Event`): the stream becomes readable, with
what the check or the read that runs then gives; the reconnect timer fires, with whether the new
connection is made; or a request is sent, with or without a callback, and whether the service
takes it. The response type of the service is a parameter `R`.

`set_reconnect` never fails, so no path reaches `ReconnectError` (`state_ne_reconnect_error`).
Once `reconnect_time` has passed `SERVER_MAX_RECONNECT_TIME`, the next failure disarms the timer
and drops the stream with the state at `WaitingServer`: the client has given up, no event changes
it any more, and every request is refused as not connected (`reconnect_gives_up_silently`).
-/

namespace KataContainers.Dragonball.Upcall

def SERVER_MAX_RECONNECT_TIME : Nat := 500

inductive UpcallClientState
  | WaitingServer
  | WaitingService
  | ServiceConnected
  | ServiceBusy
  | ReconnectError
  deriving DecidableEq, Repr

inductive UpcallClientError
  /-- `"received invalid upcall message: {0}"` -/
  | InvalidMessage
  /-- `"upcall server connect error: {0}"` -/
  | ServerConnect
  /-- `"upcall service connect error: {0}"` -/
  | ServiceConnect
  /-- `"upcall send request error: {0}"` -/
  | SendRequest
  /-- `"upcall get response error: {0}"` -/
  | GetResponse
  /-- `"upcall is not connected"` -/
  | UpcallIsNotConnected
  /-- `"upcall is busy now"` -/
  | UpcallIsBusy
  deriving DecidableEq, Repr

inductive UpcallClientResponse (R : Type)
  | DevMgr (response : R)
  | UpcallReset
  deriving DecidableEq, Repr

/-- `UpcallClientInfo` with the fields of `UpcallEpollHandler`. A stream is named by the number
of the connection that made it, and a callback by the number its caller gave it; `registered`
holds the streams whose fd epoll watches, and `invoked` every callback run, with its response. -/
structure Client (R : Type) where
  state : UpcallClientState
  stream : Option Nat
  result_callback : Option Nat
  reconnect_time : Nat
  in_reconnect : Bool
  timer_armed : Bool
  registered : List Nat
  connections : Nat
  invoked : List (Nat × UpcallClientResponse R)
  deriving DecidableEq, Repr

/-- What the checks and the read of one stream event give: `server_connection_check`,
`service_connection_start`, `service_connection_check`, and `handle_response`, whose error is
`none`. Each state runs only the calls it makes. -/
structure StreamOutcome (R : Type) where
  serverCheck : Bool
  serviceStart : Bool
  serviceCheck : Bool
  response : Option R
  deriving DecidableEq, Repr

/-- What happens next. -/
inductive Event (R : Type)
  | stream (o : StreamOutcome R)
  | reconnect (connectOk : Bool)
  | send_request (callback : Option Nat) (sendOk : Bool)
  deriving DecidableEq, Repr

namespace Client

variable {R : Type}

/-- The client that `UpcallEpollHandler::new` and `init` leave: the first connection made and
its stream registered. -/
def initial : Client R :=
  ⟨.WaitingServer, some 0, none, 0, false, false, [0], 1, []⟩

/-- `server_connection_start`: a new stream replaces the old one. -/
def server_connection_start (c : Client R) (ok : Bool) : Client R × Except UpcallClientError Unit :=
  if ok then ({ c with stream := some c.connections, connections := c.connections + 1 }, .ok ())
  else (c, .error .ServerConnect)

/-- `set_reconnect`, which arms the timer for another try unless `reconnect_time` has passed its
maximum, and never returns an error. -/
def set_reconnect (c : Client R) : Client R × Except UpcallClientError Unit :=
  if c.in_reconnect then (c, .ok ())
  else
    let c := { c with in_reconnect := true, timer_armed := false }
    if c.reconnect_time > SERVER_MAX_RECONNECT_TIME then (c, .ok ())
    else ({ c with timer_armed := true, reconnect_time := c.reconnect_time + 1 }, .ok ())

/-- A failed check or read: back to `WaitingServer` and `set_reconnect`, whose error would give
`ReconnectError`. -/
def reconnect_on_error (c : Client R) : Client R :=
  match { c with state := .WaitingServer }.set_reconnect with
  | (c, .ok ()) => c
  | (c, .error _) => { c with state := .ReconnectError }

def consume_callback (c : Client R) (response : UpcallClientResponse R) : Client R :=
  match c.result_callback with
  | some cb => { c with result_callback := none, invoked := c.invoked ++ [(cb, response)] }
  | none => c

def handle_stream_event (c : Client R) (o : StreamOutcome R) : Client R :=
  let c := match c.state with
    | .WaitingServer =>
      if !o.serverCheck then c.reconnect_on_error
      else if !o.serviceStart then c.reconnect_on_error
      else { c with state := .WaitingService }
    | .WaitingService =>
      if !o.serviceCheck then c.reconnect_on_error else { c with state := .ServiceConnected }
    | .ServiceBusy =>
      match o.response with
      | some response => { c with state := .ServiceConnected }.consume_callback (.DevMgr response)
      | none => c.reconnect_on_error
    | .ServiceConnected | .ReconnectError => c
  if c.in_reconnect then
    -- the old stream leaves epoll and is dropped, and the callback gets `UpcallReset`
    let registered := match c.stream with
      | some s => c.registered.erase s
      | none => c.registered
    { c with stream := none, registered }.consume_callback .UpcallReset
  else c

def handle_reconnect_event (c : Client R) (connectOk : Bool) : Client R :=
  let c := { c with in_reconnect := false, timer_armed := false }
  let c := match c.server_connection_start connectOk with
    | (c, .ok ()) => c
    | (c, .error _) => c.set_reconnect.1
  match c.stream with
  | some s => { c with registered := c.registered ++ [s] }
  | none => c

def send_request_inner (c : Client R) (callback : Option Nat) (sendOk : Bool) :
    Client R × Except UpcallClientError Unit :=
  match c.state with
  | .WaitingServer | .WaitingService | .ReconnectError => (c, .error .UpcallIsNotConnected)
  | .ServiceBusy => (c, .error .UpcallIsBusy)
  | .ServiceConnected =>
    if !sendOk then (c, .error .SendRequest)
    else
      let c := { c with state := .ServiceBusy }
      match callback with
      | some cb => ({ c with result_callback := some cb }, .ok ())
      | none => (c, .ok ())

end Client

/-- `UpcallEpollHandler::process`: an event of the stream or of the timer goes to its handler;
epoll reports a stream only while there is one, and the timer only while it is armed. -/
def step {R : Type} (c : Client R) : Event R → Client R
  | .stream o => if c.stream.isSome then c.handle_stream_event o else c
  | .reconnect connectOk => if c.timer_armed then c.handle_reconnect_event connectOk else c
  | .send_request callback sendOk => (c.send_request_inner callback sendOk).1

/-! ## No path to `ReconnectError` -/

namespace Client

variable {R : Type} {c : Client R}

@[simp] lemma set_reconnect_snd (c : Client R) : c.set_reconnect.2 = .ok () := by
  unfold set_reconnect
  dsimp only
  split_ifs <;> rfl

@[simp] lemma set_reconnect_state (c : Client R) : c.set_reconnect.1.state = c.state := by
  unfold set_reconnect
  dsimp only
  split_ifs <;> rfl

@[simp] lemma reconnect_on_error_state (c : Client R) : c.reconnect_on_error.state = .WaitingServer := by
  unfold reconnect_on_error
  rcases h : ({ c with state := .WaitingServer } : Client R).set_reconnect with ⟨c', _ | ⟨⟩⟩
  · have := set_reconnect_snd ({ c with state := .WaitingServer } : Client R)
    rw [h] at this
    cases this
  · have := set_reconnect_state ({ c with state := .WaitingServer } : Client R)
    rw [h] at this
    exact this

@[simp] lemma consume_callback_state (c : Client R) (response : UpcallClientResponse R) :
    (c.consume_callback response).state = c.state := by
  unfold consume_callback
  split <;> rfl

/-- The handlers only move to `WaitingServer`, `WaitingService`, `ServiceConnected` or
`ServiceBusy`, or leave the state. -/
lemma handle_stream_event_state (h : c.state ≠ .ReconnectError) (o : StreamOutcome R) :
    (c.handle_stream_event o).state ≠ .ReconnectError := by
  unfold handle_stream_event
  dsimp only
  -- one case per state, then the branch of each check; the tail keeps the state
  rcases hs : c.state <;> simp only [hs] at h ⊢
  · split_ifs <;> simp
  · split_ifs <;> simp
  · split_ifs <;> simp [hs]
  · split <;> split_ifs <;> simp
  · exact absurd rfl h

@[simp] lemma server_connection_start_state (c : Client R) (ok : Bool) :
    (c.server_connection_start ok).1.state = c.state := by
  unfold server_connection_start
  split_ifs <;> rfl

@[simp] lemma handle_reconnect_event_state (c : Client R) (connectOk : Bool) :
    (c.handle_reconnect_event connectOk).state = c.state := by
  unfold handle_reconnect_event
  dsimp only
  -- the connection's outcome, then whether there is a stream to register
  have hmid : (match ({ c with in_reconnect := false, timer_armed := false } : Client R).server_connection_start connectOk with
      | (c, .ok ()) => c
      | (c, .error _) => c.set_reconnect.1).state = c.state := by
    split
    next c' heq =>
      have hstate := congrArg (fun r => r.1.state) heq
      simp only [server_connection_start_state] at hstate
      exact hstate.symm
    next c' _ heq =>
      have hstate := congrArg (fun r => r.1.state) heq
      simp only [server_connection_start_state] at hstate
      rw [set_reconnect_state, ← hstate]
  split <;> simpa using hmid

lemma send_request_inner_state (h : c.state ≠ .ReconnectError) (callback : Option Nat)
    (sendOk : Bool) : (c.send_request_inner callback sendOk).1.state ≠ .ReconnectError := by
  unfold send_request_inner
  split
  · exact h
  · exact h
  · exact h
  · exact h
  · split_ifs
    · exact h
    · split <;> simp

end Client

lemma step_state {R : Type} {c : Client R} (h : c.state ≠ .ReconnectError) (e : Event R) :
    (step c e).state ≠ .ReconnectError := by
  cases e with
  | stream o =>
    simp only [step]
    split_ifs
    · exact Client.handle_stream_event_state h o
    · exact h
  | reconnect connectOk =>
    simp only [step]
    split_ifs
    · rw [Client.handle_reconnect_event_state]
      exact h
    · exact h
  | send_request callback sendOk => exact Client.send_request_inner_state h callback sendOk

/-- No run of the client reaches `ReconnectError`. -/
lemma state_ne_reconnect_error {R : Type} {c : Client R}
    (h : Transition.Reachable (· = Client.initial) step c) : c.state ≠ .ReconnectError :=
  h.invariant (I := fun c : Client R => c.state ≠ .ReconnectError)
    (fun _ hs => by rw [hs]; nofun) fun _ e hs => step_state hs e

/-! ## Giving up -/

namespace Client

variable {R : Type} {c : Client R}

/-- The client has given up: a reconnect is pending that no timer will run, and there is no
stream. -/
def GaveUp (c : Client R) : Prop :=
  c.in_reconnect = true ∧ c.timer_armed = false ∧ c.stream = none ∧ c.state = .WaitingServer

/-- The client waits for the server on a stream of its own, after `k` reconnects, with no
reconnect pending, no timer and no callback. -/
def Connecting (k : Nat) (c : Client R) : Prop :=
  c.state = .WaitingServer ∧ c.stream.isSome ∧ c.in_reconnect = false ∧ c.timer_armed = false ∧
    c.reconnect_time = k ∧ c.result_callback = none

/-- The client waits for its timer, after `k` reconnects, with no stream and no callback. -/
def Rearmed (k : Nat) (c : Client R) : Prop :=
  c.state = .WaitingServer ∧ c.stream = none ∧ c.in_reconnect = true ∧ c.timer_armed = true ∧
    c.reconnect_time = k ∧ c.result_callback = none

/-- A failure with no reconnect pending arms the timer while the count allows it. -/
lemma reconnect_on_error_of_le (hin : c.in_reconnect = false)
    (hk : c.reconnect_time ≤ SERVER_MAX_RECONNECT_TIME) :
    c.reconnect_on_error =
      { c with
        state := .WaitingServer
        in_reconnect := true
        timer_armed := true
        reconnect_time := c.reconnect_time + 1 } := by
  simp [reconnect_on_error, set_reconnect, hin, Nat.not_lt.mpr hk]

/-- Past the maximum count, a failure leaves the timer disarmed. -/
lemma reconnect_on_error_of_lt (hin : c.in_reconnect = false)
    (hk : SERVER_MAX_RECONNECT_TIME < c.reconnect_time) :
    c.reconnect_on_error =
      { c with
        state := .WaitingServer
        in_reconnect := true
        timer_armed := false } := by
  simp [reconnect_on_error, set_reconnect, hin, hk]

end Client

/-- A stream event whose server check fails. -/
def server_check_fails {R : Type} : Event R := .stream ⟨false, false, false, none⟩

/-- A failed server check, then a reconnect that makes a new connection. -/
def failed_round {R : Type} : List (Event R) := [server_check_fails, .reconnect true]

def failed_rounds {R : Type} : Nat → List (Event R)
  | 0 => []
  | n + 1 => failed_round ++ failed_rounds n

namespace Client

variable {R : Type} {c : Client R} {k : Nat}

lemma initial_connecting : (initial : Client R).Connecting 0 := by
  simp [Connecting, initial]

lemma Connecting.fail (h : c.Connecting k) (hk : k ≤ SERVER_MAX_RECONNECT_TIME) :
    (Upcall.step c server_check_fails).Rearmed (k + 1) := by
  obtain ⟨hs, hstream, hin, -, htime, hcb⟩ := h
  have hre := reconnect_on_error_of_le hin (htime ▸ hk)
  simp only [server_check_fails, step, hstream, if_true, handle_stream_event, hs, Bool.not_false,
    hre]
  simp [Rearmed, consume_callback, hcb, htime]

lemma Connecting.give_up (h : c.Connecting k) (hk : SERVER_MAX_RECONNECT_TIME < k) :
    (Upcall.step c server_check_fails).GaveUp := by
  obtain ⟨hs, hstream, hin, -, htime, hcb⟩ := h
  have hre := reconnect_on_error_of_lt hin (htime ▸ hk)
  simp only [server_check_fails, step, hstream, if_true, handle_stream_event, hs, Bool.not_false,
    hre]
  simp [GaveUp, consume_callback, hcb]

lemma Rearmed.reconnect (h : c.Rearmed k) : (Upcall.step c (.reconnect true)).Connecting k := by
  obtain ⟨hs, hstream, -, htimer, htime, hcb⟩ := h
  simp [step, htimer, handle_reconnect_event, server_connection_start, Connecting, hs, htime, hcb]

lemma Connecting.round (h : c.Connecting k) (hk : k ≤ SERVER_MAX_RECONNECT_TIME) :
    (Transition.run Upcall.step c failed_round).Connecting (k + 1) :=
  (h.fail hk).reconnect

/-- Rounds of a failed check and a successful reconnect count up to one past the maximum. -/
lemma Connecting.rounds (h : c.Connecting k) {n : Nat} (hn : k + n ≤ SERVER_MAX_RECONNECT_TIME + 1) :
    (Transition.run Upcall.step c (failed_rounds n)).Connecting (k + n) := by
  induction n generalizing c k with
  | zero => exact h
  | succ n ih =>
    rw [failed_rounds, Transition.run_append]
    have := ih (h.round (by omega)) (by omega)
    rwa [Nat.add_right_comm, Nat.add_assoc] at this

/-- A client that has given up ignores every event. -/
lemma GaveUp.step (h : c.GaveUp) (e : Event R) : Upcall.step c e = c := by
  obtain ⟨-, htimer, hstream, hs⟩ := h
  cases e with
  | stream o => simp [Upcall.step, hstream]
  | reconnect connectOk => simp [Upcall.step, htimer]
  | send_request callback sendOk => simp [Upcall.step, send_request_inner, hs]

lemma GaveUp.run (h : c.GaveUp) (events : List (Event R)) : Transition.run Upcall.step c events = c := by
  induction events with
  | nil => rfl
  | cons e events ih => rw [Transition.run_cons, h.step e]; exact ih

lemma GaveUp.send_request_inner (h : c.GaveUp) (callback : Option Nat) (sendOk : Bool) :
    (c.send_request_inner callback sendOk).2 = .error .UpcallIsNotConnected := by
  simp [Client.send_request_inner, h.2.2.2]

end Client

lemma failed_rounds_add {R : Type} (a b : Nat) :
    (failed_rounds (a + b) : List (Event R)) = failed_rounds a ++ failed_rounds b := by
  induction a with
  | zero => simp [failed_rounds]
  | succ a ih => rw [Nat.succ_add, failed_rounds, failed_rounds, ih, List.append_assoc]

/-- No run reaches `ReconnectError`. After more than `SERVER_MAX_RECONNECT_TIME + 1` rounds of a
failed server check and a reconnect, from the client `new` makes, the client has given up at
`WaitingServer`, without a stream or an armed timer, whatever happens next: it refuses every
request as not connected. -/
theorem reconnect_gives_up_silently {R : Type} {n : Nat} (hn : SERVER_MAX_RECONNECT_TIME + 1 < n)
    (events : List (Event R)) :
    (∀ c : Client R, Transition.Reachable (· = Client.initial) step c →
      c.state ≠ .ReconnectError) ∧
    (Transition.run step Client.initial (failed_rounds n ++ events)).GaveUp ∧
    ∀ callback sendOk, ((Transition.run step (Client.initial : Client R)
      (failed_rounds n ++ events)).send_request_inner callback sendOk).2 = .error .UpcallIsNotConnected := by
  obtain ⟨m, rfl⟩ : ∃ m, n = (SERVER_MAX_RECONNECT_TIME + 1) + (m + 1) :=
    ⟨n - (SERVER_MAX_RECONNECT_TIME + 2), by omega⟩
  -- the rounds bring the count to one past the maximum; the next failed check gives up
  have hmax := (Client.initial_connecting (R := R)).rounds (n := SERVER_MAX_RECONNECT_TIME + 1)
    (by omega)
  have hgave := hmax.give_up (by omega)
  have hrun : Transition.run step Client.initial
      (failed_rounds ((SERVER_MAX_RECONNECT_TIME + 1) + (m + 1)) ++ events) =
      step (Transition.run step Client.initial (failed_rounds (SERVER_MAX_RECONNECT_TIME + 1)))
        server_check_fails := by
    rw [failed_rounds_add, List.append_assoc, Transition.run_append,
      show (failed_rounds (m + 1) : List (Event R)) =
        server_check_fails :: .reconnect true :: failed_rounds m from rfl,
      List.cons_append, Transition.run_cons]
    exact hgave.run _
  rw [hrun]
  exact ⟨fun c hc => state_ne_reconnect_error hc, hgave, hgave.send_request_inner⟩

/-- The rounds that exhaust the reconnects, then a reconnect and a stream event whose checks all
succeed: the client still waits for the server and refuses a request. -/
def healthy_after_rounds : List (Event Unit) :=
  failed_rounds 502 ++ [.reconnect true, .stream ⟨true, true, true, none⟩]

theorem reconnect_gives_up_silently_healthy_after_rounds :
    SERVER_MAX_RECONNECT_TIME + 1 < 502 ∧
    (Transition.run step Client.initial healthy_after_rounds).state = .WaitingServer ∧
    ((Transition.run step Client.initial healthy_after_rounds).send_request_inner (some 0)
      true).2 = .error .UpcallIsNotConnected := by
  have h := reconnect_gives_up_silently (R := Unit) (n := 502) (by decide)
    [.reconnect true, .stream ⟨true, true, true, none⟩]
  exact ⟨by decide, h.2.1.2.2.2, h.2.2 (some 0) true⟩

end KataContainers.Dragonball.Upcall
