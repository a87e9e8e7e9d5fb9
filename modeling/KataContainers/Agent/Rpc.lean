import KataContainers.Agent.Policy

/-!
# Agent ttrpc service

Model of `impl agent_ttrpc::AgentService for AgentService` in `src/agent/src/rpc.rs`, built with the
`agent-policy` feature. Every handler but `set_policy` first asks the policy (`is_allowed`, or
`is_allowed_copy_file` for `copy_file`) and returns its error with `?`; only then does it run its
body. The bodies (`do_create_container`, the netlink calls, `do_copy_file` and the rest) act on the
sandbox, the containers, the network and the guest files, which together form the guest state `G`;
they are parameters of the service, one per method. `trace_rpc_call!` only logs and is left out.

The result that carries the policy gate is `handle_gated`: for every request but `SetPolicyRequest`
the handler is the body guarded by the policy's answer on the request's message name and its
serialized text, so a denied or failing check leaves the whole agent state unchanged
(`handle_denied`), and the policy state is never changed by such a request (`handle_policy`).
-/

namespace KataContainers.Agent

/-- The methods of `AgentService` whose handler starts with `is_allowed(&req)`. -/
inductive AgentMethod
  | create_container | start_container | remove_container | exec_process | signal_process
  | wait_process | update_container | stats_container | pause_container | resume_container
  | remove_stale_virtiofs_share_mounts | write_stdin | read_stdout | read_stderr | close_stdin
  | tty_win_resize | update_interface | update_routes | update_ephemeral_mounts | get_ip_tables
  | set_ip_tables | list_interfaces | list_routes | create_sandbox | destroy_sandbox
  | add_arp_neighbors | online_cpu_mem | reseed_random_dev | get_guest_details
  | mem_hotplug_by_probe | set_guest_date_time | get_metrics | get_oom_event | get_volume_stats
  | add_swap
  deriving DecidableEq, Repr

/-- `req.descriptor_dyn().name()`: the protobuf message each method receives. -/
def AgentMethod.message_name : AgentMethod → String
  | .create_container => "CreateContainerRequest"
  | .start_container => "StartContainerRequest"
  | .remove_container => "RemoveContainerRequest"
  | .exec_process => "ExecProcessRequest"
  | .signal_process => "SignalProcessRequest"
  | .wait_process => "WaitProcessRequest"
  | .update_container => "UpdateContainerRequest"
  | .stats_container => "StatsContainerRequest"
  | .pause_container => "PauseContainerRequest"
  | .resume_container => "ResumeContainerRequest"
  | .remove_stale_virtiofs_share_mounts => "RemoveStaleVirtiofsShareMountsRequest"
  | .write_stdin => "WriteStreamRequest"
  | .read_stdout => "ReadStreamRequest"
  | .read_stderr => "ReadStreamRequest"
  | .close_stdin => "CloseStdinRequest"
  | .tty_win_resize => "TtyWinResizeRequest"
  | .update_interface => "UpdateInterfaceRequest"
  | .update_routes => "UpdateRoutesRequest"
  | .update_ephemeral_mounts => "UpdateEphemeralMountsRequest"
  | .get_ip_tables => "GetIPTablesRequest"
  | .set_ip_tables => "SetIPTablesRequest"
  | .list_interfaces => "ListInterfacesRequest"
  | .list_routes => "ListRoutesRequest"
  | .create_sandbox => "CreateSandboxRequest"
  | .destroy_sandbox => "DestroySandboxRequest"
  | .add_arp_neighbors => "AddARPNeighborsRequest"
  | .online_cpu_mem => "OnlineCPUMemRequest"
  | .reseed_random_dev => "ReseedRandomDevRequest"
  | .get_guest_details => "GuestDetailsRequest"
  | .mem_hotplug_by_probe => "MemHotplugByProbeRequest"
  | .set_guest_date_time => "SetGuestDateTimeRequest"
  | .get_metrics => "GetMetricsRequest"
  | .get_oom_event => "GetOOMEventRequest"
  | .get_volume_stats => "VolumeStatsRequest"
  | .add_swap => "AddSwapRequest"

/-- `protocols::agent::SetPolicyRequest`. -/
structure SetPolicyRequest where
  policy : String
  deriving DecidableEq, Repr

/-- A request on the agent's ttrpc surface: a message `M` for a method of `AgentMethod`, or one of
the two requests whose handlers differ. -/
inductive AgentRequest (M : Type)
  | call (method : AgentMethod) (req : M)
  | copy_file (req : CopyFileRequest)
  | set_policy (req : SetPolicyRequest)

/-- What the service is built from: the regorus engine, the hash check, the `serde_json`
serializations and the handler bodies over the guest state `G` with responses `Rsp`. -/
structure AgentService (E M G Rsp : Type) where
  regorus : Regorus E
  check_policy_hash : String → Except String Unit
  /-- `serde_json::to_string(&req)` of a request message. -/
  serde : M → String
  serde_copy_file : PolicyCopyFileRequest → String
  serde_set_policy : SetPolicyRequest → String
  -- `serde_json` writes JSON, which `set_input_json` parses
  serde_json : ∀ req, regorus.set_input_json (serde req) = .ok ()
  serde_copy_file_json : ∀ req, regorus.set_input_json (serde_copy_file req) = .ok ()
  serde_set_policy_json : ∀ req, regorus.set_input_json (serde_set_policy req) = .ok ()
  /-- The code of each handler after its policy check. -/
  body : AgentMethod → M → G → Except TtrpcError Rsp × G
  /-- `do_copy_file(&req).map_ttrpc_err(same)`. -/
  do_copy_file : CopyFileRequest → G → Except TtrpcError Unit × G

/-- The agent's state: the `AGENT_POLICY` singleton and everything the handler bodies act on. -/
structure AgentState (E G : Type) where
  policy : AgentPolicy E
  guest : G

/-- The response of a handler: the method's response, or `Empty` for `copy_file` and
`set_policy`. -/
abbrev Response (Rsp : Type) := Option Rsp

variable {E M G Rsp : Type} (svc : AgentService E M G Rsp)

/-- A handler of the form `is_allowed(&req).await?; <body>`. -/
def gated_handler (name : String) (method : AgentMethod) (req : M) (s : AgentState E G) :
    Except TtrpcError Rsp × AgentState E G :=
  match is_allowed svc.regorus s.policy name (svc.serde req) with
  | .error e => (.error e, s)
  | .ok () =>
    let (r, guest) := svc.body method req s.guest
    (r, { s with guest })

-- The handlers of the methods in `AgentMethod`, each with the message name `is_allowed` sends.
def create_container := gated_handler svc "CreateContainerRequest" .create_container
def start_container := gated_handler svc "StartContainerRequest" .start_container
def remove_container := gated_handler svc "RemoveContainerRequest" .remove_container
def exec_process := gated_handler svc "ExecProcessRequest" .exec_process
def signal_process := gated_handler svc "SignalProcessRequest" .signal_process
def wait_process := gated_handler svc "WaitProcessRequest" .wait_process
def update_container := gated_handler svc "UpdateContainerRequest" .update_container
def stats_container := gated_handler svc "StatsContainerRequest" .stats_container
def pause_container := gated_handler svc "PauseContainerRequest" .pause_container
def resume_container := gated_handler svc "ResumeContainerRequest" .resume_container
def remove_stale_virtiofs_share_mounts :=
  gated_handler svc "RemoveStaleVirtiofsShareMountsRequest" .remove_stale_virtiofs_share_mounts
def write_stdin := gated_handler svc "WriteStreamRequest" .write_stdin
def read_stdout := gated_handler svc "ReadStreamRequest" .read_stdout
def read_stderr := gated_handler svc "ReadStreamRequest" .read_stderr
def close_stdin := gated_handler svc "CloseStdinRequest" .close_stdin
def tty_win_resize := gated_handler svc "TtyWinResizeRequest" .tty_win_resize
def update_interface := gated_handler svc "UpdateInterfaceRequest" .update_interface
def update_routes := gated_handler svc "UpdateRoutesRequest" .update_routes
def update_ephemeral_mounts :=
  gated_handler svc "UpdateEphemeralMountsRequest" .update_ephemeral_mounts
def get_ip_tables := gated_handler svc "GetIPTablesRequest" .get_ip_tables
def set_ip_tables := gated_handler svc "SetIPTablesRequest" .set_ip_tables
def list_interfaces := gated_handler svc "ListInterfacesRequest" .list_interfaces
def list_routes := gated_handler svc "ListRoutesRequest" .list_routes
def create_sandbox := gated_handler svc "CreateSandboxRequest" .create_sandbox
def destroy_sandbox := gated_handler svc "DestroySandboxRequest" .destroy_sandbox
def add_arp_neighbors := gated_handler svc "AddARPNeighborsRequest" .add_arp_neighbors
def online_cpu_mem := gated_handler svc "OnlineCPUMemRequest" .online_cpu_mem
def reseed_random_dev := gated_handler svc "ReseedRandomDevRequest" .reseed_random_dev
def get_guest_details := gated_handler svc "GuestDetailsRequest" .get_guest_details
def mem_hotplug_by_probe := gated_handler svc "MemHotplugByProbeRequest" .mem_hotplug_by_probe
def set_guest_date_time := gated_handler svc "SetGuestDateTimeRequest" .set_guest_date_time
def get_metrics := gated_handler svc "GetMetricsRequest" .get_metrics
def get_oom_event := gated_handler svc "GetOOMEventRequest" .get_oom_event
def get_volume_stats := gated_handler svc "VolumeStatsRequest" .get_volume_stats
def add_swap := gated_handler svc "AddSwapRequest" .add_swap

/-- `AgentService::copy_file`: `is_allowed_copy_file(&req).await?; do_copy_file(&req)?`. -/
def copy_file (req : CopyFileRequest) (s : AgentState E G) :
    Except TtrpcError Unit × AgentState E G :=
  match is_allowed_copy_file svc.regorus svc.serde_copy_file s.policy req with
  | .error e => (.error e, s)
  | .ok () =>
    let (r, guest) := svc.do_copy_file req s.guest
    (r, { s with guest })

/-- `AgentService::set_policy`: `do_set_policy(&req).await?`, with no check before it. -/
def set_policy (req : SetPolicyRequest) (s : AgentState E G) :
    Except TtrpcError Unit × AgentState E G :=
  let (r, policy) := do_set_policy svc.regorus svc.check_policy_hash s.policy
    (svc.serde_set_policy req) req.policy
  (r, { s with policy })

/-- The ttrpc dispatch: each request goes to its method's handler. -/
def handle : AgentRequest M → AgentState E G → Except TtrpcError (Response Rsp) × AgentState E G
  | .call m req, s =>
    let (r, s') := match m with
      | .create_container => create_container svc req s
      | .start_container => start_container svc req s
      | .remove_container => remove_container svc req s
      | .exec_process => exec_process svc req s
      | .signal_process => signal_process svc req s
      | .wait_process => wait_process svc req s
      | .update_container => update_container svc req s
      | .stats_container => stats_container svc req s
      | .pause_container => pause_container svc req s
      | .resume_container => resume_container svc req s
      | .remove_stale_virtiofs_share_mounts => remove_stale_virtiofs_share_mounts svc req s
      | .write_stdin => write_stdin svc req s
      | .read_stdout => read_stdout svc req s
      | .read_stderr => read_stderr svc req s
      | .close_stdin => close_stdin svc req s
      | .tty_win_resize => tty_win_resize svc req s
      | .update_interface => update_interface svc req s
      | .update_routes => update_routes svc req s
      | .update_ephemeral_mounts => update_ephemeral_mounts svc req s
      | .get_ip_tables => get_ip_tables svc req s
      | .set_ip_tables => set_ip_tables svc req s
      | .list_interfaces => list_interfaces svc req s
      | .list_routes => list_routes svc req s
      | .create_sandbox => create_sandbox svc req s
      | .destroy_sandbox => destroy_sandbox svc req s
      | .add_arp_neighbors => add_arp_neighbors svc req s
      | .online_cpu_mem => online_cpu_mem svc req s
      | .reseed_random_dev => reseed_random_dev svc req s
      | .get_guest_details => get_guest_details svc req s
      | .mem_hotplug_by_probe => mem_hotplug_by_probe svc req s
      | .set_guest_date_time => set_guest_date_time svc req s
      | .get_metrics => get_metrics svc req s
      | .get_oom_event => get_oom_event svc req s
      | .get_volume_stats => get_volume_stats svc req s
      | .add_swap => add_swap svc req s
    (r.map some, s')
  | .copy_file req, s =>
    let (r, s') := copy_file svc req s
    (r.map fun () => none, s')
  | .set_policy req, s =>
    let (r, s') := set_policy svc req s
    (r.map fun () => none, s')

/-- The endpoint name and the input text the policy is asked about before a request runs; `none`
for `SetPolicyRequest`, which `do_set_policy` checks itself. -/
def AgentRequest.policy_query : AgentRequest M → Option (String × String)
  | .call m req => some (m.message_name, svc.serde req)
  | .copy_file req => some ("CopyFileRequest", svc.serde_copy_file req.policy_req)
  | .set_policy _ => none

/-- What a gated request does once its check has passed. -/
def AgentRequest.run_body : AgentRequest M → G → Except TtrpcError (Response Rsp) × G
  | .call m req, g =>
    let (r, g') := svc.body m req g
    (r.map some, g')
  | .copy_file req, g =>
    let (r, g') := svc.do_copy_file req g
    (r.map fun () => none, g')
  | .set_policy _, g => (.ok none, g)

/-- Each handler of `AgentMethod` is `gated_handler` on its method's message name. -/
lemma handle_call (m : AgentMethod) (req : M) (s : AgentState E G) :
    handle svc (.call m req) s =
      let (r, s') := gated_handler svc m.message_name m req s
      (r.map some, s') := by
  cases m <;> rfl

/-- Every request but `SetPolicyRequest` runs its body exactly when the policy check on its
message name and input succeeds, and returns the check's error unchanged otherwise. -/
lemma handle_gated {r : AgentRequest M} {ep input : String}
    (hq : r.policy_query svc = some (ep, input)) (s : AgentState E G) :
    handle svc r s =
      match allow_request svc.regorus s.policy ep input with
      | .error e => (.error e, s)
      | .ok () =>
        let (x, guest) := r.run_body svc s.guest
        (x, { s with guest }) := by
  cases r with
  | call m req =>
    simp only [AgentRequest.policy_query, Option.some.injEq, Prod.mk.injEq] at hq
    obtain ⟨rfl, rfl⟩ := hq
    rw [handle_call]
    unfold gated_handler is_allowed
    cases allow_request svc.regorus s.policy m.message_name (svc.serde req) <;> rfl
  | copy_file req =>
    simp only [AgentRequest.policy_query, Option.some.injEq, Prod.mk.injEq] at hq
    obtain ⟨rfl, rfl⟩ := hq
    simp only [handle, copy_file, is_allowed_copy_file]
    cases allow_request svc.regorus s.policy "CopyFileRequest" (svc.serde_copy_file req.policy_req)
      <;> rfl
  | set_policy req => cases hq

/-- A gated request whose check fails changes nothing and returns the check's error. -/
lemma handle_denied {r : AgentRequest M} {ep input : String}
    (hq : r.policy_query svc = some (ep, input)) {s : AgentState E G} {e : TtrpcError}
    (he : allow_request svc.regorus s.policy ep input = .error e) :
    handle svc r s = (.error e, s) := by
  rw [handle_gated svc hq, he]

/-- The texts the gated requests send to the policy are JSON. -/
lemma policy_query_json {r : AgentRequest M} {ep input : String}
    (hq : r.policy_query svc = some (ep, input)) : svc.regorus.set_input_json input = .ok () := by
  cases r with
  | call m req =>
    simp only [AgentRequest.policy_query, Option.some.injEq, Prod.mk.injEq] at hq
    rw [← hq.2]
    exact svc.serde_json req
  | copy_file req =>
    simp only [AgentRequest.policy_query, Option.some.injEq, Prod.mk.injEq] at hq
    rw [← hq.2]
    exact svc.serde_copy_file_json _
  | set_policy req => cases hq

/-- Under `allow_failures` every gated request runs its body: the flag overrides both a denial and
an evaluation error, and the request texts are JSON, so `set_input_json` never fails first. -/
lemma handle_allow_failures {r : AgentRequest M} {ep input : String}
    (hq : r.policy_query svc = some (ep, input)) {s : AgentState E G}
    (hf : s.policy.allow_failures = true) :
    handle svc r s =
      let (x, guest) := r.run_body svc s.guest
      (x, { s with guest }) := by
  rw [handle_gated svc hq, allow_request_of_allow_failures svc.regorus (policy_query_json svc hq) hf]

/-- A gated request never changes the installed policy or its `allow_failures` flag. -/
lemma handle_policy {r : AgentRequest M} {ep input : String}
    (hq : r.policy_query svc = some (ep, input)) (s : AgentState E G) :
    (handle svc r s).2.policy = s.policy := by
  rw [handle_gated svc hq]
  cases allow_request svc.regorus s.policy ep input <;> rfl

/-- The policy gate: a request other than `SetPolicyRequest` that changes the agent state, or that
returns `Ok`, was answered `allowed = true` by `AgentPolicy::allow_request` on its message name and
its serialized input. -/
lemma handle_allowed_of_effect {r : AgentRequest M} {ep input : String}
    (hq : r.policy_query svc = some (ep, input)) {s : AgentState E G}
    (h : (handle svc r s).2 ≠ s ∨ (∃ x, (handle svc r s).1 = .ok x)) :
    ∃ prints, s.policy.allow_request svc.regorus ep input = .ok (true, prints) := by
  rw [← allow_request_ok_iff]
  cases he : allow_request svc.regorus s.policy ep input with
  | ok u => rfl
  | error e =>
    rw [handle_denied svc hq he] at h
    rcases h with h | ⟨x, hx⟩
    · exact absurd rfl h
    · cases hx

/-- `SetPolicyRequest` under a policy that allows it, on a text whose hash matches: when
`add_policy` succeeds the fresh engine with the new policy is installed and `allow_failures` becomes
the old flag or the new policy's flag; when it fails the handler returns the error with the fresh,
empty engine installed, not the policy in force before the call. -/
lemma handle_set_policy_allowed {s : AgentState E G} {req : SetPolicyRequest}
    (hallow : allow_request svc.regorus s.policy "SetPolicyRequest" (svc.serde_set_policy req) = .ok ())
    (hc : svc.check_policy_hash req.policy = .ok ()) :
    handle svc (.set_policy req) s =
      match svc.regorus.add_policy svc.regorus.new_engine "agent_policy" req.policy with
      | .ok engine => (.ok none, { s with policy := { allow_failures :=
          s.policy.allow_failures || policy_allows_failures svc.regorus engine, engine } })
      | .error msg => (.error ⟨.INVALID_ARGUMENT, msg⟩,
          { s with policy := { s.policy with engine := svc.regorus.new_engine } }) := by
  simp only [handle, set_policy, do_set_policy, hallow, AgentPolicy.set_policy, hc]
  cases svc.regorus.add_policy svc.regorus.new_engine "agent_policy" req.policy with
  | ok engine =>
    simp only [AgentPolicy.update_allow_failures_flag_eq]
    rfl
  | error msg => rfl

/-- Once `allow_failures` is set it survives every successful `SetPolicyRequest`, also one whose
policy defines `AllowRequestsFailingPolicy` as `false`. -/
theorem set_policy_allow_failures_stale {s : AgentState E G} {req : SetPolicyRequest} {engine : E}
    (hf : s.policy.allow_failures = true)
    (hc : svc.check_policy_hash req.policy = .ok ())
    (ha : svc.regorus.add_policy svc.regorus.new_engine "agent_policy" req.policy = .ok engine)
    (hoff : policy_allows_failures svc.regorus engine = false) :
    (handle svc (.set_policy req) s).1 = .ok none ∧
      (handle svc (.set_policy req) s).2.policy.engine = engine ∧
      (handle svc (.set_policy req) s).2.policy.allow_failures = true ∧
      policy_allows_failures svc.regorus (handle svc (.set_policy req) s).2.policy.engine = false := by
  -- the flag lets the request itself through, and `add_policy` succeeds
  rw [handle_set_policy_allowed svc
    (allow_request_of_allow_failures svc.regorus (svc.serde_set_policy_json req) hf) hc, ha, hf]
  exact ⟨rfl, rfl, rfl, hoff⟩

/-- An engine for concrete runs: it holds the installed policy texts; the policy `"allow-all"`
answers every query `true`, any other policy answers `false`, as a policy whose rules all default
to `false` does. -/
def sample_regorus : Regorus (List String) where
  new_engine := []
  add_policy e _ text := .ok (text :: e)
  add_policy_from_file e _ := .ok e
  set_input_json _ := .ok ()
  eval_bool_query e _ _ := .ok (e == ["allow-all"])
  take_prints _ := .ok ""
  set_input_json_empty := rfl

/-- A service on `sample_regorus` whose SNP `host_data` is the digest of `"deny-all"` (the digest
is the identity here) and whose handler bodies do nothing. -/
def sample_service : AgentService (List String) Unit Unit Unit where
  regorus := sample_regorus
  check_policy_hash := check_policy_hash id (.ok "deny-all")
  serde _ := ""
  serde_copy_file _ := ""
  serde_set_policy _ := ""
  serde_json _ := rfl
  serde_copy_file_json _ := rfl
  serde_set_policy_json _ := rfl
  body _ _ g := (.ok (), g)
  do_copy_file _ g := (.ok (), g)

/-- From `"allow-all"` with `allow_failures` set, `SetPolicyRequest` installs `"deny-all"`, whose
`AllowRequestsFailingPolicy` is `false`, and `allow_failures` stays `true`. -/
theorem set_policy_allow_failures_stale_deny_all :
    sample_service.check_policy_hash "deny-all" = .ok () ∧
      sample_regorus.add_policy [] "agent_policy" "deny-all" = .ok ["deny-all"] ∧
      policy_allows_failures sample_regorus ["deny-all"] = false ∧
      (handle sample_service (.set_policy ⟨"deny-all"⟩) ⟨⟨true, ["allow-all"]⟩, ()⟩).2.policy =
        ⟨true, ["deny-all"]⟩ :=
  have h := @set_policy_allow_failures_stale _ _ _ _ sample_service ⟨⟨true, ["allow-all"]⟩, ()⟩
    ⟨"deny-all"⟩ ["deny-all"] rfl rfl rfl rfl
  ⟨rfl, rfl, rfl, by rw [AgentPolicy.mk.injEq]; exact ⟨h.2.2.1, h.2.1⟩⟩

end KataContainers.Agent
