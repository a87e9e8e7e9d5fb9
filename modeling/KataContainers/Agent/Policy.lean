import Mathlib

/-!
# Agent policy

Model of `src/agent/src/policy.rs`: the singleton `AgentPolicy` (its `allow_failures` flag and its
regorus engine), the method `AgentPolicy::allow_request` that asks the engine whether a request may
run, `update_allow_failures_flag`, `set_policy` with `check_policy_hash`, and the free functions
`allow_request`, `is_allowed`, `is_allowed_copy_file` and `do_set_policy` that the ttrpc handlers
call.

The regorus engine is a third-party crate: `Regorus E` bundles the engine operations the agent
uses over an abstract engine state `E` (the installed policy modules). Every query sets its input
with `set_input_json` just before it evaluates, so the input is passed to `eval_bool_query` rather
than kept in `E`; `set_input_json` fails only on a text that is not JSON, and every text the agent
sets is JSON (`{}`, or what `serde_json::to_string` writes). The SNP firmware report and the
SHA-256 digest that `check_policy_hash` compares are parameters too. The log file
(`log_eval_input`) only records requests and is left out.

Every mutation of `&mut self` in the source survives a later `?`, so the stateful functions return
the result together with the policy state after the call, also on an error.
-/

namespace KataContainers.Agent

/-- The `ttrpc::Code`s that the policy module returns. -/
inductive Code
  | INVALID_ARGUMENT
  | PERMISSION_DENIED
  | INTERNAL
  deriving DecidableEq, Repr

/-- `ttrpc_error(code, err)`: a ttrpc status; `err` is the text the source formats with `{:?}`. -/
structure TtrpcError where
  code : Code
  err : String
  deriving DecidableEq, Repr

/-- The regorus operations the agent uses, over the engine state `E`. -/
structure Regorus (E : Type) where
  /-- `AgentPolicy::new_engine()`: an engine with no policy module. -/
  new_engine : E
  /-- `engine.add_policy(name, text)`. -/
  add_policy : E → String → String → Except String E
  /-- `engine.add_policy_from_file(path)`. -/
  add_policy_from_file : E → String → Except String E
  /-- `set_input_json(input)`: parse `input` as the input of the next query. -/
  set_input_json : String → Except String Unit
  /-- `eval_bool_query(query, false)` once the input is `input`. -/
  eval_bool_query : E → String → String → Except String Bool
  /-- `take_prints()`, its lines joined with blanks. -/
  take_prints : E → Except String String
  /-- `{}` is JSON. -/
  set_input_json_empty : set_input_json "\x7b\x7d" = .ok ()

/-- Singleton policy object (`struct AgentPolicy`, less its log file). -/
structure AgentPolicy (E : Type) where
  /-- When true policy errors are ignored. -/
  allow_failures : Bool
  /-- The regorus engine and the policy installed in it. -/
  engine : E

variable {E : Type} (R : Regorus E)

namespace AgentPolicy

/-- `AgentPolicy::new()`. -/
def new : AgentPolicy E :=
  { allow_failures := false, engine := R.new_engine }

/-- `AgentPolicy::allow_request(ep, ep_input)`: ask regorus whether `ep` may run on `ep_input`. -/
def allow_request (self : AgentPolicy E) (ep ep_input : String) : Except String (Bool × String) := do
  let query := "data.agent_policy." ++ ep
  -- `set_input_json(ep_input)?` returns its error before `allow_failures` is looked at
  R.set_input_json ep_input
  let allow ← match R.eval_bool_query self.engine ep_input query with
    | .ok a => pure a
    | .error e => if !self.allow_failures then throw e else pure false
  -- `if !allow && self.allow_failures { allow = true }`
  let allow := if !allow && self.allow_failures then true else allow
  let prints := match R.take_prints self.engine with
    | .ok p => p
    | .error e => "Failed to get policy log: " ++ e
  pure (allow, prints)

/-- `update_allow_failures_flag`: query `AllowRequestsFailingPolicy` with the input `{}`. -/
def update_allow_failures_flag (self : AgentPolicy E) : AgentPolicy E :=
  { self with
    allow_failures :=
      match self.allow_request R "AllowRequestsFailingPolicy" "\x7b\x7d" with
      | .ok (allowed, _) => allowed
      | .error _ => false }

/-- `initialize_policy()` of `main.rs`: `AgentPolicy::initialize` on the default policy file. -/
def initialize_policy (self : AgentPolicy E) : Except String Unit × AgentPolicy E :=
  match R.add_policy_from_file self.engine "/etc/kata-opa/default-policy.rego" with
  | .error e => (.error e, self)
  | .ok engine => (.ok (), update_allow_failures_flag R { self with engine })

/-- `AgentPolicy::set_policy(policy)`: the engine is replaced by a fresh one before `add_policy`
runs, so an `add_policy` error leaves the fresh engine installed. -/
def set_policy (check_policy_hash : String → Except String Unit) (self : AgentPolicy E)
    (policy : String) : Except String Unit × AgentPolicy E :=
  match check_policy_hash policy with
  | .error e => (.error e, self)
  | .ok () =>
    let self := { self with engine := R.new_engine }
    match R.add_policy self.engine "agent_policy" policy with
    | .error e => (.error e, self)
    | .ok engine => (.ok (), update_allow_failures_flag R { self with engine })

end AgentPolicy

/-- `check_policy_hash(policy)`: the SHA-256 digest of the policy text must equal the `host_data`
of the SNP report; `report` is `Firmware::open()` followed by `get_report`. -/
def check_policy_hash {D : Type} [DecidableEq D] (sha256 : String → D)
    (report : Except String D) (policy : String) : Except String Unit := do
  let digest := sha256 policy
  let host_data ← report
  if host_data ≠ digest then throw "Unexpected policy hash" else pure ()

/-- The free function `allow_request(policy, ep, request)`. -/
def allow_request (policy : AgentPolicy E) (ep request : String) : Except TtrpcError Unit :=
  match policy.allow_request R ep request with
  | .ok (allowed, prints) =>
    if allowed then .ok ()
    else .error ⟨.PERMISSION_DENIED, ep ++ " is blocked by policy: " ++ prints⟩
  | .error e => .error ⟨.INTERNAL, ep ++ ": internal error " ++ e⟩

/-- `is_allowed(req)`: the request's protobuf message name and its `serde_json` text. -/
def is_allowed (policy : AgentPolicy E) (name request : String) : Except TtrpcError Unit :=
  allow_request R policy name request

/-- `stat::SFlag::S_IFMT` bits the agent tests with `SFlag::contains`. -/
def S_IFDIR : UInt32 := 0o040000
def S_IFLNK : UInt32 := 0o120000

/-- `SFlag::from_bits_truncate(mode).contains(flag)`. -/
def sflag_contains (mode flag : UInt32) : Bool :=
  mode &&& flag == flag

/-- `protocols::agent::CopyFileRequest`. -/
structure CopyFileRequest where
  path : String
  file_size : Int
  file_mode : UInt32
  dir_mode : UInt32
  uid : Int
  gid : Int
  offset : Int
  data : List UInt8
  deriving DecidableEq, Repr

/-- `PolicyCopyFileRequest`: a `CopyFileRequest` whose `data` is replaced by `symlink_src`. -/
structure PolicyCopyFileRequest where
  path : String
  file_size : Int
  file_mode : UInt32
  dir_mode : UInt32
  uid : Int
  gid : Int
  offset : Int
  symlink_src : List UInt8
  deriving DecidableEq, Repr

/-- The `PolicyCopyFileRequest` that `is_allowed_copy_file` builds: the link target in symlink mode,
an empty path otherwise. -/
def CopyFileRequest.policy_req (req : CopyFileRequest) : PolicyCopyFileRequest :=
  let symlink_src := if sflag_contains req.file_mode S_IFLNK then req.data else []
  { path := req.path, file_size := req.file_size, file_mode := req.file_mode,
    dir_mode := req.dir_mode, uid := req.uid, gid := req.gid, offset := req.offset, symlink_src }

/-- `is_allowed_copy_file(req)`, with `serde_json::to_string` of a `PolicyCopyFileRequest`. -/
def is_allowed_copy_file (serde : PolicyCopyFileRequest → String) (policy : AgentPolicy E)
    (req : CopyFileRequest) : Except TtrpcError Unit :=
  allow_request R policy "CopyFileRequest" (serde req.policy_req)

/-- `do_set_policy(req)`: the policy in force must allow the request, then `set_policy` runs. -/
def do_set_policy (check_policy_hash : String → Except String Unit) (policy : AgentPolicy E)
    (request req_policy : String) : Except TtrpcError Unit × AgentPolicy E :=
  match allow_request R policy "SetPolicyRequest" request with
  | .error e => (.error e, policy)
  | .ok () =>
    match policy.set_policy R check_policy_hash req_policy with
    | (.error e, policy') => (.error ⟨.INVALID_ARGUMENT, e⟩, policy')
    | (.ok (), policy') => (.ok (), policy')

end KataContainers.Agent

namespace KataContainers.Agent

variable {E : Type} (R : Regorus E)

/-- The value of `data.agent_policy.AllowRequestsFailingPolicy` in the engine `e`, `false` when it is
undefined or its evaluation fails. -/
def policy_allows_failures (e : E) : Bool :=
  match R.eval_bool_query e "\x7b\x7d" "data.agent_policy.AllowRequestsFailingPolicy" with
  | .ok b => b
  | .error _ => false

namespace AgentPolicy

/-- `allow_request` in closed form: an input that is not JSON is an error; otherwise the engine's
answer, overridden to `true` by `allow_failures`. -/
lemma allow_request_eq (p : AgentPolicy E) (ep input : String) :
    p.allow_request R ep input =
      match R.set_input_json input, R.eval_bool_query p.engine input ("data.agent_policy." ++ ep) with
      | .error e, _ => .error e
      | .ok (), .ok a =>
        .ok (a || p.allow_failures, match R.take_prints p.engine with
          | .ok q => q
          | .error e => "Failed to get policy log: " ++ e)
      | .ok (), .error e =>
        if p.allow_failures then
          .ok (true, match R.take_prints p.engine with
            | .ok q => q
            | .error e => "Failed to get policy log: " ++ e)
        else .error e := by
  unfold allow_request
  cases R.set_input_json input with
  | error e => rfl
  | ok u =>
    dsimp only
    cases R.eval_bool_query p.engine input ("data.agent_policy." ++ ep) with
    | ok a => cases a <;> cases p.allow_failures <;> rfl
    | error e => cases p.allow_failures <;> rfl

/-- `allow_request` answers `allowed = true` exactly when the input is JSON and the policy's rule
evaluates to `true` or `allow_failures` is set. -/
lemma allow_request_true_iff (p : AgentPolicy E) (ep input : String) :
    (∃ prints, p.allow_request R ep input = .ok (true, prints)) ↔
      R.set_input_json input = .ok () ∧
        (R.eval_bool_query p.engine input ("data.agent_policy." ++ ep) = .ok true ∨
          p.allow_failures = true) := by
  rw [allow_request_eq]
  cases R.set_input_json input with
  | error e => simp
  | ok u =>
    cases R.eval_bool_query p.engine input ("data.agent_policy." ++ ep) with
    | ok a => cases a <;> cases p.allow_failures <;> simp
    | error e => cases p.allow_failures <;> simp

/-- `update_allow_failures_flag` reads the new engine's flag, but a flag that is already set stays
set: the query runs through `allow_request`, which the old flag overrides. -/
lemma update_allow_failures_flag_allow_failures (p : AgentPolicy E) :
    (p.update_allow_failures_flag R).allow_failures =
      (p.allow_failures || policy_allows_failures R p.engine) := by
  unfold update_allow_failures_flag policy_allows_failures
  rw [allow_request_eq, R.set_input_json_empty, show "data.agent_policy." ++
    "AllowRequestsFailingPolicy" = "data.agent_policy.AllowRequestsFailingPolicy" from rfl]
  cases R.eval_bool_query p.engine "\x7b\x7d" "data.agent_policy.AllowRequestsFailingPolicy" with
  | ok a => cases a <;> cases p.allow_failures <;> rfl
  | error e => cases p.allow_failures <;> rfl

lemma update_allow_failures_flag_eq (p : AgentPolicy E) :
    p.update_allow_failures_flag R =
      { p with allow_failures := p.allow_failures || policy_allows_failures R p.engine } := by
  rw [← update_allow_failures_flag_allow_failures]
  rfl

end AgentPolicy

/-- The free `allow_request` succeeds exactly when the method answers `allowed = true`. -/
lemma allow_request_ok_iff (p : AgentPolicy E) (ep request : String) :
    allow_request R p ep request = .ok () ↔ ∃ prints, p.allow_request R ep request = .ok (true, prints) := by
  unfold allow_request
  cases p.allow_request R ep request with
  | ok r =>
    obtain ⟨allowed, prints⟩ := r
    cases allowed <;> simp
  | error e => simp

/-- With `allow_failures` set, the check lets through every request whose input is JSON. -/
lemma allow_request_of_allow_failures {p : AgentPolicy E} {ep input : String}
    (hj : R.set_input_json input = .ok ()) (hf : p.allow_failures = true) :
    allow_request R p ep input = .ok () := by
  rw [allow_request_ok_iff, AgentPolicy.allow_request_true_iff]
  exact ⟨hj, .inr hf⟩

end KataContainers.Agent
