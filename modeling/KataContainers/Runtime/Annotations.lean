import KataContainers.Posix.Path
import KataContainers.Lib.Except
import KataContainers.Lib.List

/-!
# Hypervisor annotations

How the two runtimes let an OCI annotation override a path-valued hypervisor setting: the Go
runtime's `addAnnotations` (`src/runtime/pkg/oci/utils.go`), which rejects a hypervisor annotation
that no regular expression of `enable_annotations` matches and then checks each path against the
expansion of its globs on the host (`checkPathIsInGlobs`), and runtime-rs's
`Annotation::update_config_by_annotation` (`libs/kata-types`), which skips an annotation that
`is_annotation_enabled` refuses and checks each path with `validate_path_pattern`. Only the
path-valued settings are modelled: the hypervisor binary, its control binary, the jailer, the
virtio-fs daemon, the vhost-user store (Go only) and the entropy source. Every other override
leaves them as they are.

The regular expression engines (`regexp`, the `regex` crate), the `glob` crate and Go's
`filepath.Glob` are outside the repository and are parameters, with the behaviour their
documentation gives on the patterns this development uses (`RegexEngine.Lawful`,
`GlobEngine.Lawful`).

Both runtimes search for a match of a regular expression anywhere in the annotation's base name,
and runtime-rs matches the raw value against the glob, where `*` also matches `/` and `..`
(`validate_path_pattern`'s own test expects `/*` to admit `/bin/ls`): `update_config_by_annotation_gate`
and `addAnnotations_gate` say what each runtime does check, and `annotation_gates_admit` runs both
on an enable list `["path"]`.
-/

namespace KataContainers.Runtime

/-! ## The matching engines -/

/-- A regular expression engine as the gates use it: whether a pattern compiles, and whether it
matches somewhere in a text (`regexp.MatchString`, `RegexSet::is_match`). -/
structure RegexEngine where
  compiles : String → Bool
  is_match : String → String → Bool

/-- A pattern of letters, digits and `_` only: it has no metacharacter. -/
def plain (p : String) : Prop := ∀ c ∈ p.toList, c.isAlphanum = true ∨ c = '_'

-- decided over the pattern's characters (an instance found by search may range over all of `Char`)
instance (p : String) : Decidable (plain p) := List.decidableBAll _ p.toList

/-- What both engines document for a pattern without metacharacters: it compiles, and it matches
a text exactly when it occurs in it, since neither engine anchors a match. -/
structure RegexEngine.Lawful (R : RegexEngine) : Prop where
  literal : ∀ p s, plain p → R.compiles p = true ∧ (R.is_match p s = true ↔ p.toList <:+: s.toList)

/-- The `glob` crate: whether `Pattern::new` accepts a pattern, and `Pattern::matches`
(`pattern_matches`). -/
structure GlobEngine where
  valid : String → Bool
  pattern_matches : String → String → Bool

/-- A path without glob metacharacters. -/
def glob_literal (p : String) : Prop := ∀ c ∈ p.toList, c ≠ '*' ∧ c ≠ '?' ∧ c ≠ '[' ∧ c ≠ ']'

instance (p : String) : Decidable (glob_literal p) := List.decidableBAll _ p.toList

/-- What the `glob` crate documents for `Pattern::matches` with the default `MatchOptions` on a
literal followed by `*`: the `*` matches any sequence of characters, `/` included. -/
structure GlobEngine.Lawful (G : GlobEngine) : Prop where
  star : ∀ lit s, glob_literal lit →
    G.valid (lit ++ "*") = true ∧ (G.pattern_matches (lit ++ "*") s = true ↔ lit.toList <+: s.toList)

/-! ## The annotation keys -/

/-- `KATA_ANNO_CFG_HYPERVISOR_PREFIX`, Go's `KataAnnotationHypervisorPrefix`. -/
def KATA_ANNO_CFG_HYPERVISOR_PREFIX : String := "io.katacontainers.config.hypervisor."
/-- `KATA_ANNO_CFG_HYPERVISOR_PATH`, Go's `HypervisorPath`. -/
def KATA_ANNO_CFG_HYPERVISOR_PATH : String := "io.katacontainers.config.hypervisor.path"
/-- `KATA_ANNO_CFG_HYPERVISOR_CTLPATH`, Go's `HypervisorCtlPath`. -/
def KATA_ANNO_CFG_HYPERVISOR_CTLPATH : String := "io.katacontainers.config.hypervisor.ctlpath"
/-- `KATA_ANNO_CFG_HYPERVISOR_JAILER_PATH`, Go's `JailerPath`. -/
def KATA_ANNO_CFG_HYPERVISOR_JAILER_PATH : String :=
  "io.katacontainers.config.hypervisor.jailer_path"
/-- `KATA_ANNO_CFG_HYPERVISOR_ENTROPY_SOURCE`, Go's `EntropySource`. -/
def KATA_ANNO_CFG_HYPERVISOR_ENTROPY_SOURCE : String :=
  "io.katacontainers.config.hypervisor.entropy_source"
/-- `KATA_ANNO_CFG_HYPERVISOR_VIRTIO_FS_DAEMON`, Go's `VirtioFSDaemon`. -/
def KATA_ANNO_CFG_HYPERVISOR_VIRTIO_FS_DAEMON : String :=
  "io.katacontainers.config.hypervisor.virtio_fs_daemon"
/-- Go's `VhostUserStorePath`. -/
def VhostUserStorePath : String := "io.katacontainers.config.hypervisor.vhost_user_store_path"

/-- The base name of a hypervisor annotation: the key without the prefix, if it has it. -/
def base_name (key : String) : Option String :=
  if KATA_ANNO_CFG_HYPERVISOR_PREFIX.toList.isPrefixOf key.toList then
    some (String.ofList (key.toList.drop KATA_ANNO_CFG_HYPERVISOR_PREFIX.length))
  else none

/-! ## runtime-rs -/

/-- The path-valued settings of a runtime-rs hypervisor section, with the glob lists that bound
them (`valid_*`) and `security_info.enable_annotations`. -/
structure Hypervisor where
  enable_annotations : List String
  path : String
  valid_hypervisor_paths : List String
  ctlpath : String
  valid_ctlpaths : List String
  jailer_path : String
  valid_jailer_paths : List String
  entropy_source : String
  valid_entropy_sources : List String
  virtio_fs_daemon : String
  valid_virtio_fs_daemon_paths : List String
  deriving DecidableEq, Repr

variable (R : RegexEngine) (G : GlobEngine)

/-- `SecurityInfo::is_annotation_enabled`: a hypervisor key whose base name some pattern matches;
`RegexSet::new` fails, and nothing is enabled, if one pattern does not compile. -/
def is_annotation_enabled (enable_annotations : List String) (path : String) : Bool :=
  match base_name path with
  | some key => enable_annotations.all R.compiles && enable_annotations.any (R.is_match · key)
  | none => false

/-- `validate_path_pattern`: some pattern that `Pattern::new` accepts matches the path. -/
def validate_path_pattern (patterns : List String) (path : String) : Except String Unit :=
  if patterns.any (fun p => G.valid p && G.pattern_matches p path) then pure ()
  else throw ("Path " ++ path ++ " is not permitted")

def Hypervisor.validate_hypervisor_path (hv : Hypervisor) (path : String) : Except String Unit :=
  validate_path_pattern G hv.valid_hypervisor_paths path
def Hypervisor.validate_hypervisor_ctlpath (hv : Hypervisor) (path : String) : Except String Unit :=
  validate_path_pattern G hv.valid_ctlpaths path
def Hypervisor.validate_jailer_path (hv : Hypervisor) (path : String) : Except String Unit :=
  validate_path_pattern G hv.valid_jailer_paths path
/-- `MachineInfo::validate_entropy_source`. -/
def Hypervisor.validate_entropy_source (hv : Hypervisor) (path : String) : Except String Unit :=
  validate_path_pattern G hv.valid_entropy_sources path
/-- `SharedFsInfo::validate_virtiofs_daemon_path`. -/
def Hypervisor.validate_virtiofs_daemon_path (hv : Hypervisor) (path : String) :
    Except String Unit :=
  validate_path_pattern G hv.valid_virtio_fs_daemon_paths path

/-- The arms of the `match key.as_str()` of `update_config_by_annotation` that set a path. -/
def update_path (hv : Hypervisor) (key value : String) : Except String Hypervisor :=
  if key = KATA_ANNO_CFG_HYPERVISOR_PATH then do
    hv.validate_hypervisor_path G value
    pure { hv with path := value }
  else if key = KATA_ANNO_CFG_HYPERVISOR_CTLPATH then do
    hv.validate_hypervisor_ctlpath G value
    pure { hv with ctlpath := value }
  else if key = KATA_ANNO_CFG_HYPERVISOR_JAILER_PATH then do
    hv.validate_jailer_path G value
    pure { hv with jailer_path := value }
  else if key = KATA_ANNO_CFG_HYPERVISOR_ENTROPY_SOURCE then do
    hv.validate_entropy_source G value
    pure { hv with entropy_source := value }
  else if key = KATA_ANNO_CFG_HYPERVISOR_VIRTIO_FS_DAEMON then do
    hv.validate_virtiofs_daemon_path G value
    pure { hv with virtio_fs_daemon := value }
  else pure hv

/-- `Annotation::update_config_by_annotation` over the annotations in iteration order: an
annotation that is not enabled is skipped, an enabled one goes through its arm. -/
def update_config_by_annotation (hv : Hypervisor) : List (String × String) → Except String Hypervisor
  | [] => pure hv
  | (key, value) :: rest => do
    let hv ← (if is_annotation_enabled R hv.enable_annotations key then update_path G hv key value
      else pure hv)
    update_config_by_annotation hv rest

/-! ## The Go runtime -/

/-- The path-valued settings of the Go runtime's `HypervisorConfig`. -/
structure GoPaths where
  HypervisorPath : String
  JailerPath : String
  HypervisorCtlPath : String
  VirtioFSDaemon : String
  VhostUserStorePath : String
  EntropySource : String
  deriving DecidableEq, Repr

/-- The lists of the runtime configuration that bound them, with `EnableAnnotations`. -/
structure GoRuntime where
  EnableAnnotations : List String
  HypervisorPathList : List String
  JailerPathList : List String
  HypervisorCtlPathList : List String
  VirtioFSDaemonList : List String
  VhostUserStorePathList : List String
  EntropySourceList : List String
  deriving DecidableEq, Repr

/-- `regexpContains`: a pattern matches; `MatchString`'s error on a bad pattern counts as no
match. -/
def regexpContains (regexps : List String) (toMatch : String) : Bool :=
  regexps.any fun candidate => R.compiles candidate && R.is_match candidate toMatch

/-- `checkPathIsInGlobs`: the path is one of the names `filepath.Glob` expands a glob to. -/
def checkPathIsInGlobs (glob : String → List String) (globs : List String) (path : String) : Bool :=
  globs.any fun g => (glob g).any (path == ·)

/-- `checkAnnotationNameIsValid(list, name, KataAnnotationHypervisorPrefix)`. -/
def checkAnnotationNameIsValid (list : List String) (name : String) : Bool :=
  match base_name name with
  | some key => regexpContains R list key
  | none => true

/-- `ocispec.Annotations[key]`. -/
def lookup (annotations : List (String × String)) (key : String) : Option String :=
  annotations.lookup key

/-- The shape of every path override: `if value, ok := ocispec.Annotations[key]; ok`, check the
value against the globs, and set it. -/
def override_path (glob : String → List String) (annotations : List (String × String))
    (key : String) (globs : List String) (what : String) (set : String → GoPaths) (config : GoPaths) :
    Except String GoPaths :=
  match lookup annotations key with
  | some value =>
    if !checkPathIsInGlobs glob globs value then
      throw (what ++ " " ++ value ++ " required from annotation is not valid")
    else pure (set value)
  | none => pure config

/-- The path overrides of `addHypervisorVirtioFsOverrides`, `addHypervisorPathOverrides` and
`addHypervisorConfigOverrides`, in the order they run. The entropy source alone is set only when
the value is not empty. -/
def addPathOverrides (glob : String → List String) (annotations : List (String × String))
    (runtime : GoRuntime) (config : GoPaths) : Except String GoPaths := do
  let config ← override_path glob annotations KATA_ANNO_CFG_HYPERVISOR_VIRTIO_FS_DAEMON
    runtime.VirtioFSDaemonList "virtiofs daemon" (fun v => { config with VirtioFSDaemon := v }) config
  let config ← override_path glob annotations KATA_ANNO_CFG_HYPERVISOR_PATH
    runtime.HypervisorPathList "hypervisor" (fun v => { config with HypervisorPath := v }) config
  let config ← override_path glob annotations KATA_ANNO_CFG_HYPERVISOR_JAILER_PATH
    runtime.JailerPathList "jailer" (fun v => { config with JailerPath := v }) config
  let config ← override_path glob annotations KATA_ANNO_CFG_HYPERVISOR_CTLPATH
    runtime.HypervisorCtlPathList "hypervisor control" (fun v => { config with HypervisorCtlPath := v })
    config
  let config ← override_path glob annotations VhostUserStorePath
    runtime.VhostUserStorePathList "vhost store path" (fun v => { config with VhostUserStorePath := v })
    config
  match lookup annotations KATA_ANNO_CFG_HYPERVISOR_ENTROPY_SOURCE with
  | some value =>
    if !checkPathIsInGlobs glob runtime.EntropySourceList value then
      throw ("entropy source " ++ value ++ " required from annotation is not valid")
    else if value ≠ "" then pure { config with EntropySource := value }
    else pure config
  | none => pure config

/-- The check of `addAnnotations`'s first loop on one annotation. -/
def check_annotation_name (runtime : GoRuntime) (a : String × String) : Except String Unit :=
  if !checkAnnotationNameIsValid R runtime.EnableAnnotations a.1 then
    throw ("annotation " ++ a.1 ++ " is not enabled")
  else pure ()

/-- `addAnnotations`: every annotation name must be valid, then the overrides run. -/
def addAnnotations (glob : String → List String) (annotations : List (String × String))
    (runtime : GoRuntime) (config : GoPaths) : Except String GoPaths := do
  annotations.forM (check_annotation_name R runtime)
  addPathOverrides glob annotations runtime config

/-! ## What the runtime-rs gate checks -/

/-- The path settings of runtime-rs, to state one law for all of them. -/
inductive PathField
  | path
  | ctlpath
  | jailer_path
  | entropy_source
  | virtio_fs_daemon
  deriving DecidableEq, Repr

namespace PathField

/-- The annotation that overrides the setting. -/
def key : PathField → String
  | .path => KATA_ANNO_CFG_HYPERVISOR_PATH
  | .ctlpath => KATA_ANNO_CFG_HYPERVISOR_CTLPATH
  | .jailer_path => KATA_ANNO_CFG_HYPERVISOR_JAILER_PATH
  | .entropy_source => KATA_ANNO_CFG_HYPERVISOR_ENTROPY_SOURCE
  | .virtio_fs_daemon => KATA_ANNO_CFG_HYPERVISOR_VIRTIO_FS_DAEMON

/-- The setting's value. -/
def get : PathField → Hypervisor → String
  | .path, hv => hv.path
  | .ctlpath, hv => hv.ctlpath
  | .jailer_path, hv => hv.jailer_path
  | .entropy_source, hv => hv.entropy_source
  | .virtio_fs_daemon, hv => hv.virtio_fs_daemon

/-- The setting's glob list. -/
def valid : PathField → Hypervisor → List String
  | .path, hv => hv.valid_hypervisor_paths
  | .ctlpath, hv => hv.valid_ctlpaths
  | .jailer_path, hv => hv.valid_jailer_paths
  | .entropy_source, hv => hv.valid_entropy_sources
  | .virtio_fs_daemon, hv => hv.valid_virtio_fs_daemon_paths

/-- Overwrite the setting. -/
def set : PathField → Hypervisor → String → Hypervisor
  | .path, hv, v => { hv with path := v }
  | .ctlpath, hv, v => { hv with ctlpath := v }
  | .jailer_path, hv, v => { hv with jailer_path := v }
  | .entropy_source, hv, v => { hv with entropy_source := v }
  | .virtio_fs_daemon, hv, v => { hv with virtio_fs_daemon := v }

@[simp] theorem get_set_same (f : PathField) (hv : Hypervisor) (v : String) :
    f.get (f.set hv v) = v := by
  cases f <;> rfl

@[simp] theorem get_set_other {f g : PathField} (h : g ≠ f) (hv : Hypervisor) (v : String) :
    g.get (f.set hv v) = g.get hv := by
  cases f <;> cases g <;> first | rfl | exact absurd rfl h

@[simp] theorem valid_set (f g : PathField) (hv : Hypervisor) (v : String) :
    g.valid (f.set hv v) = g.valid hv := by
  cases f <;> cases g <;> rfl

@[simp] theorem enable_annotations_set (f : PathField) (hv : Hypervisor) (v : String) :
    (f.set hv v).enable_annotations = hv.enable_annotations := by
  cases f <;> rfl

end PathField

/-- `update_path` either leaves the section alone or sets the setting whose annotation it is, to
a value that passed that setting's glob check. -/
theorem update_path_cases {hv hv' : Hypervisor} {key value : String}
    (h : update_path G hv key value = .ok hv') :
    hv' = hv ∨ ∃ f : PathField, key = f.key ∧ validate_path_pattern G (f.valid hv) value = .ok () ∧
      hv' = f.set hv value := by
  unfold update_path at h
  -- one arm per path setting, then the arms that set something else
  split_ifs at h with h1 h2 h3 h4 h5
  · obtain ⟨u, hv1, h⟩ := Except.bind_eq_ok_iff.mp h
    exact .inr ⟨.path, h1, hv1, (Except.ok.inj h).symm⟩
  · obtain ⟨u, hv1, h⟩ := Except.bind_eq_ok_iff.mp h
    exact .inr ⟨.ctlpath, h2, hv1, (Except.ok.inj h).symm⟩
  · obtain ⟨u, hv1, h⟩ := Except.bind_eq_ok_iff.mp h
    exact .inr ⟨.jailer_path, h3, hv1, (Except.ok.inj h).symm⟩
  · obtain ⟨u, hv1, h⟩ := Except.bind_eq_ok_iff.mp h
    exact .inr ⟨.entropy_source, h4, hv1, (Except.ok.inj h).symm⟩
  · obtain ⟨u, hv1, h⟩ := Except.bind_eq_ok_iff.mp h
    exact .inr ⟨.virtio_fs_daemon, h5, hv1, (Except.ok.inj h).symm⟩
  · exact .inl (Except.ok.inj h).symm

/-- A path setting of `hv` relative to the section `hv0` it started from, after the annotations
`anns` have been applied: unchanged, or the value of its own annotation, which was enabled and
passed the setting's glob check. -/
def RsJustified (hv0 : Hypervisor) (anns : List (String × String)) (f : PathField) (v : String) :
    Prop :=
  v = f.get hv0 ∨ ((f.key, v) ∈ anns ∧ is_annotation_enabled R hv0.enable_annotations f.key = true ∧
    validate_path_pattern G (f.valid hv0) v = .ok ())

/-- Run lemma of `update_config_by_annotation`: the lists are never changed, and every path
setting stays justified. -/
theorem update_config_by_annotation_justified {hv0 : Hypervisor} {all : List (String × String)} :
    ∀ {anns : List (String × String)} {hv hv' : Hypervisor}, anns ⊆ all →
      hv.enable_annotations = hv0.enable_annotations → (∀ f : PathField, f.valid hv = f.valid hv0) →
      (∀ f : PathField, RsJustified R G hv0 all f (f.get hv)) →
      update_config_by_annotation R G hv anns = .ok hv' →
      ∀ f : PathField, RsJustified R G hv0 all f (f.get hv') := by
  intro anns
  induction anns with
  | nil => intro hv hv' _ _ _ hj h; cases h; exact hj
  | cons a rest ih =>
    intro hv hv' hsub hen hval hj h
    obtain ⟨key, value⟩ := a
    unfold update_config_by_annotation at h
    obtain ⟨hv1, hstep, hrest⟩ := Except.bind_eq_ok_iff.mp h
    have hmem : (key, value) ∈ all := hsub List.mem_cons_self
    have hsub' : rest ⊆ all := fun x hx => hsub (List.mem_cons_of_mem _ hx)
    split at hstep
    · rename_i henabled
      rcases update_path_cases G hstep with rfl | ⟨g, rfl, hok, rfl⟩
      · exact ih hsub' hen hval hj hrest
      · -- the annotation sets `g`: the other settings keep their justification
        refine ih hsub' (by simpa using hen) (fun f => by simpa using hval f) ?_ hrest
        intro f
        by_cases hfg : f = g
        · subst hfg
          refine .inr ⟨?_, ?_, ?_⟩
          · simpa using hmem
          · rw [← hen]; exact henabled
          · rw [PathField.get_set_same, ← hval f]; exact hok
        · rw [PathField.get_set_other hfg]
          exact hj f
    · cases hstep
      exact ih hsub' hen hval hj hrest

/-- What runtime-rs checks before an annotation changes a path setting: the annotation's base name
is matched by a pattern of `enable_annotations`, and the value, as given, by one of the
setting's globs. -/
theorem update_config_by_annotation_gate {hv hv' : Hypervisor} {anns : List (String × String)}
    (h : update_config_by_annotation R G hv anns = .ok hv') (f : PathField) :
    f.get hv' = f.get hv ∨ ((f.key, f.get hv') ∈ anns ∧
      is_annotation_enabled R hv.enable_annotations f.key = true ∧
      validate_path_pattern G (f.valid hv) (f.get hv') = .ok ()) :=
  update_config_by_annotation_justified R G (fun _ hx => hx) rfl (fun _ => rfl)
    (fun _ => .inl rfl) h f

/-! ## What the Go gate checks -/

/-- The path settings of the Go runtime. -/
inductive GoField
  | HypervisorPath
  | JailerPath
  | HypervisorCtlPath
  | VirtioFSDaemon
  | VhostUserStorePath
  | EntropySource
  deriving DecidableEq, Repr

namespace GoField

/-- The annotation that overrides the setting. -/
def key : GoField → String
  | .HypervisorPath => KATA_ANNO_CFG_HYPERVISOR_PATH
  | .JailerPath => KATA_ANNO_CFG_HYPERVISOR_JAILER_PATH
  | .HypervisorCtlPath => KATA_ANNO_CFG_HYPERVISOR_CTLPATH
  | .VirtioFSDaemon => KATA_ANNO_CFG_HYPERVISOR_VIRTIO_FS_DAEMON
  | .VhostUserStorePath => Runtime.VhostUserStorePath
  | .EntropySource => KATA_ANNO_CFG_HYPERVISOR_ENTROPY_SOURCE

/-- The setting's value. -/
def get : GoField → GoPaths → String
  | .HypervisorPath, c => c.HypervisorPath
  | .JailerPath, c => c.JailerPath
  | .HypervisorCtlPath, c => c.HypervisorCtlPath
  | .VirtioFSDaemon, c => c.VirtioFSDaemon
  | .VhostUserStorePath, c => c.VhostUserStorePath
  | .EntropySource, c => c.EntropySource

/-- The runtime configuration's glob list for the setting. -/
def list : GoField → GoRuntime → List String
  | .HypervisorPath, r => r.HypervisorPathList
  | .JailerPath, r => r.JailerPathList
  | .HypervisorCtlPath, r => r.HypervisorCtlPathList
  | .VirtioFSDaemon, r => r.VirtioFSDaemonList
  | .VhostUserStorePath, r => r.VhostUserStorePathList
  | .EntropySource, r => r.EntropySourceList

/-- Overwrite the setting. -/
def set : GoField → GoPaths → String → GoPaths
  | .HypervisorPath, c, v => { c with HypervisorPath := v }
  | .JailerPath, c, v => { c with JailerPath := v }
  | .HypervisorCtlPath, c, v => { c with HypervisorCtlPath := v }
  | .VirtioFSDaemon, c, v => { c with VirtioFSDaemon := v }
  | .VhostUserStorePath, c, v => { c with VhostUserStorePath := v }
  | .EntropySource, c, v => { c with EntropySource := v }

@[simp] theorem get_set_same (f : GoField) (c : GoPaths) (v : String) : f.get (f.set c v) = v := by
  cases f <;> rfl

@[simp] theorem get_set_other {f g : GoField} (h : g ≠ f) (c : GoPaths) (v : String) :
    g.get (f.set c v) = g.get c := by
  cases f <;> cases g <;> first | rfl | exact absurd rfl h

end GoField

section Go

variable (glob : String → List String) (anns : List (String × String)) (runtime : GoRuntime)

/-- A Go path setting relative to the configuration `config0` it started from: unchanged, or the
value of its own annotation, found among the expansions of one of its globs. -/
def GoJustified (config0 : GoPaths) (f : GoField) (v : String) : Prop :=
  v = f.get config0 ∨ (lookup anns f.key = some v ∧ checkPathIsInGlobs glob (f.list runtime) v = true)

/-- Step lemma of the path overrides: an override of `f` keeps every setting justified. -/
theorem override_path_justified {config0 cur next : GoPaths} {f : GoField} {what : String}
    (hj : ∀ g, GoJustified glob anns runtime config0 g (g.get cur))
    (h : override_path glob anns f.key (f.list runtime) what (f.set cur) cur = .ok next) :
    ∀ g, GoJustified glob anns runtime config0 g (g.get next) := by
  unfold override_path at h
  split at h
  · rename_i value hlook
    by_cases hc : checkPathIsInGlobs glob (f.list runtime) value = true
    · simp only [hc, Bool.not_true, Bool.false_eq_true, if_false, Except.pure_eq_ok,
        Except.ok.injEq] at h
      subst h
      intro g
      by_cases hgf : g = f
      · subst hgf
        rw [GoField.get_set_same]
        exact .inr ⟨hlook, hc⟩
      · rw [GoField.get_set_other hgf]
        exact hj g
    · simp [hc] at h
  · cases h
    exact hj

/-- Run lemma of `addPathOverrides`: every setting ends justified. -/
theorem addPathOverrides_justified {config cfg : GoPaths}
    (h : addPathOverrides glob anns runtime config = .ok cfg) :
    ∀ g, GoJustified glob anns runtime config g (g.get cfg) := by
  have j0 : ∀ g, GoJustified glob anns runtime config g (g.get config) := fun _ => .inl rfl
  unfold addPathOverrides at h
  obtain ⟨c1, h1, h⟩ := Except.bind_eq_ok_iff.mp h
  have j1 := override_path_justified glob anns runtime (f := .VirtioFSDaemon) j0 h1
  obtain ⟨c2, h2, h⟩ := Except.bind_eq_ok_iff.mp h
  have j2 := override_path_justified glob anns runtime (f := .HypervisorPath) j1 h2
  obtain ⟨c3, h3, h⟩ := Except.bind_eq_ok_iff.mp h
  have j3 := override_path_justified glob anns runtime (f := .JailerPath) j2 h3
  obtain ⟨c4, h4, h⟩ := Except.bind_eq_ok_iff.mp h
  have j4 := override_path_justified glob anns runtime (f := .HypervisorCtlPath) j3 h4
  obtain ⟨c5, h5, h⟩ := Except.bind_eq_ok_iff.mp h
  have j5 := override_path_justified glob anns runtime (f := .VhostUserStorePath) j4 h5
  -- the entropy source has its own body: an empty value passes the check without being set
  split at h
  · rename_i value hlook
    by_cases hc : checkPathIsInGlobs glob runtime.EntropySourceList value = true
    · simp only [hc, Bool.not_true, Bool.false_eq_true, if_false] at h
      split at h
      · cases h
        intro g
        by_cases hg : g = .EntropySource
        · subst hg
          exact .inr ⟨hlook, hc⟩
        · exact GoField.get_set_other (f := .EntropySource) hg c5 value ▸ j5 g
      · cases h
        exact j5
    · simp [hc] at h
  · cases h
    exact j5

/-- The Go runtime's first loop: every annotation name is valid. -/
theorem check_annotation_names {config cfg : GoPaths}
    (h : addAnnotations R glob anns runtime config = .ok cfg) :
    ∀ a ∈ anns, checkAnnotationNameIsValid R runtime.EnableAnnotations a.1 = true := by
  unfold addAnnotations at h
  obtain ⟨u, hnames, -⟩ := Except.bind_eq_ok_iff.mp h
  intro a ha
  have hcheck := Except.forM_eq_ok_iff.mp hnames a ha
  unfold check_annotation_name at hcheck
  by_cases hv : checkAnnotationNameIsValid R runtime.EnableAnnotations a.1 = true
  · exact hv
  · simp [hv] at hcheck

/-- What the Go runtime checks before an annotation changes a path setting: the annotation's name
is valid, that is some pattern of `EnableAnnotations` matches in its base name, and the value is
one of the names a glob of the setting expands to. -/
theorem addAnnotations_gate {config cfg : GoPaths}
    (h : addAnnotations R glob anns runtime config = .ok cfg) (f : GoField) :
    f.get cfg = f.get config ∨ (lookup anns f.key = some (f.get cfg) ∧
      checkAnnotationNameIsValid R runtime.EnableAnnotations f.key = true ∧
      checkPathIsInGlobs glob (f.list runtime) (f.get cfg) = true) := by
  have hpaths : addPathOverrides glob anns runtime config = .ok cfg := by
    unfold addAnnotations at h
    obtain ⟨u, -, h⟩ := Except.bind_eq_ok_iff.mp h
    exact h
  rcases addPathOverrides_justified glob anns runtime hpaths f with heq | ⟨hlook, hglob⟩
  · exact .inl heq
  · have hmem : (f.key, f.get cfg) ∈ anns := List.mem_of_lookup_eq_some hlook
    have hname := check_annotation_names R glob anns runtime h _ hmem
    exact .inr ⟨hlook, hname, hglob⟩

end Go

/-! ## Both gates -/

theorem is_annotation_enabled_iff {list : List String} {key : String} :
    is_annotation_enabled R list key = true ↔
      ∃ base, base_name key = some base ∧ (∀ p ∈ list, R.compiles p = true) ∧
        ∃ p ∈ list, R.is_match p base = true := by
  unfold is_annotation_enabled
  cases hb : base_name key with
  | none => simp
  | some base => simp

theorem validate_path_pattern_ok_iff {patterns : List String} {path : String} :
    validate_path_pattern G patterns path = .ok () ↔
      ∃ p ∈ patterns, G.valid p = true ∧ G.pattern_matches p path = true := by
  unfold validate_path_pattern
  by_cases h : patterns.any (fun p => G.valid p && G.pattern_matches p path) = true
  · simp only [h, if_true, Except.pure_eq_ok, true_iff]
    simpa using h
  · simp only [h, Bool.false_eq_true, if_false, Except.throw_eq_error]
    refine ⟨fun h' => (nomatch h'), fun hex => absurd ?_ h⟩
    simpa using hex

theorem checkAnnotationNameIsValid_of_base {list : List String} {key base : String}
    (hb : base_name key = some base) (h : checkAnnotationNameIsValid R list key = true) :
    ∃ p ∈ list, R.compiles p = true ∧ R.is_match p base = true := by
  simpa [checkAnnotationNameIsValid, hb, regexpContains] using h

theorem checkPathIsInGlobs_iff {glob : String → List String} {globs : List String} {path : String} :
    checkPathIsInGlobs glob globs path = true ↔ ∃ g ∈ globs, path ∈ glob g := by
  simp [checkPathIsInGlobs]

/-- What runtime-rs checks before an annotation changes a path setting: the annotation is in the
map, a pattern of `enable_annotations` matches somewhere in its base name, and one of the
setting's globs matches the value as given. -/
def RsGate (hv : Hypervisor) (anns : List (String × String)) (hv' : Hypervisor) : Prop :=
  ∀ f : PathField, f.get hv' = f.get hv ∨ ((f.key, f.get hv') ∈ anns ∧
    (∃ base, base_name f.key = some base ∧ ∃ p ∈ hv.enable_annotations, R.is_match p base = true) ∧
    ∃ p ∈ f.valid hv, G.valid p = true ∧ G.pattern_matches p (f.get hv') = true)

/-- What the Go runtime checks before an annotation changes a path setting: the annotation is in
the map, a pattern of `EnableAnnotations` matches somewhere in its base name, and the value is one
of the names a glob of the setting expands to. -/
def GoGate (glob : String → List String) (anns : List (String × String)) (runtime : GoRuntime)
    (config cfg : GoPaths) : Prop :=
  ∀ f : GoField, f.get cfg = f.get config ∨ (lookup anns f.key = some (f.get cfg) ∧
    (∃ base, base_name f.key = some base ∧
      ∃ p ∈ runtime.EnableAnnotations, R.compiles p = true ∧ R.is_match p base = true) ∧
    ∃ g ∈ f.list runtime, f.get cfg ∈ glob g)

/-- A regular expression engine that reads every pattern as a literal, as both engines read a
plain pattern. -/
def literal_regex : RegexEngine where
  compiles _ := true
  is_match p s := List.isInfix p.toList s.toList

theorem literal_regex_lawful : literal_regex.Lawful :=
  ⟨fun _ _ _ => ⟨rfl, List.isInfix_iff⟩⟩

/-- A glob engine for a literal with an optional final `*` that matches any rest, as the `glob`
crate reads such a pattern. -/
def star_glob : GlobEngine where
  valid _ := true
  pattern_matches p s :=
    match p.toList.reverse with
    | '*' :: r => r.reverse.isPrefixOf s.toList
    | _ => decide (p = s)

theorem star_glob_lawful : star_glob.Lawful := by
  refine ⟨fun lit s _ => ⟨rfl, ?_⟩⟩
  have hrev : (lit ++ "*").toList.reverse = '*' :: lit.toList.reverse := by
    simp [String.toList_append]
  simp only [star_glob, hrev, List.reverse_reverse]
  exact List.isPrefixOf_iff_prefix

/-- A runtime-rs hypervisor section that enables the annotations matching `path` and admits the
paths matching `/usr/bin/*`. -/
def rs_sample : Hypervisor where
  enable_annotations := ["path"]
  path := "/usr/bin/qemu"
  valid_hypervisor_paths := ["/usr/bin/*"]
  ctlpath := ""
  valid_ctlpaths := ["/usr/bin/*"]
  jailer_path := ""
  valid_jailer_paths := ["/usr/bin/*"]
  entropy_source := "/dev/urandom"
  valid_entropy_sources := ["/dev/urandom"]
  virtio_fs_daemon := ""
  valid_virtio_fs_daemon_paths := ["/usr/bin/*"]

/-- The Go runtime configuration of the same policy. -/
def go_runtime_sample : GoRuntime where
  EnableAnnotations := ["path"]
  HypervisorPathList := ["/usr/bin/*"]
  JailerPathList := ["/usr/bin/*"]
  HypervisorCtlPathList := ["/usr/bin/*"]
  VirtioFSDaemonList := ["/usr/bin/*"]
  VhostUserStorePathList := []
  EntropySourceList := ["/dev/urandom"]

/-- The Go settings before the annotations. -/
def go_config_sample : GoPaths := ⟨"/usr/bin/qemu", "", "", "", "", "/dev/urandom"⟩

/-- An annotation map that overrides the jailer with `/usr/bin/jailer`. -/
def jailer_annotations : List (String × String) :=
  [(KATA_ANNO_CFG_HYPERVISOR_JAILER_PATH, "/usr/bin/jailer")]

/-- With `enable_annotations = ["path"]` and the jailer bounded by `/usr/bin/*`, runtime-rs takes
the jailer annotation, whose base name `jailer_path` the pattern matches only in part, and sets
the jailer to `/usr/bin/../../tmp/x`, whose cleaned form `/tmp/x` no glob matches; the Go runtime
takes the same annotation with a value the glob expands to. -/
theorem annotation_gates_admit (R : RegexEngine) (G : GlobEngine) (hR : R.Lawful) (hG : G.Lawful)
    (glob : String → List String) (hglob : glob "/usr/bin/*" = ["/usr/bin/jailer"]) :
    base_name KATA_ANNO_CFG_HYPERVISOR_JAILER_PATH = some "jailer_path" ∧
      rs_sample.enable_annotations = ["path"] ∧ rs_sample.valid_jailer_paths = ["/usr/bin/*"] ∧
      update_config_by_annotation R G rs_sample
          [(KATA_ANNO_CFG_HYPERVISOR_JAILER_PATH, "/usr/bin/../../tmp/x")] =
        .ok { rs_sample with jailer_path := "/usr/bin/../../tmp/x" } ∧
      Posix.clean (Posix.components (Posix.utf8 "/usr/bin/../../tmp/x")) =
        Posix.components (Posix.utf8 "/tmp/x") ∧
      G.pattern_matches "/usr/bin/*" "/tmp/x" = false ∧
      addAnnotations R glob jailer_annotations go_runtime_sample go_config_sample =
        .ok { go_config_sample with JailerPath := "/usr/bin/jailer" } := by
  -- what the engines' documented behaviour gives on these patterns
  obtain ⟨hc, hm⟩ := hR.literal "path" "jailer_path" (by decide)
  have hmatch : R.is_match "path" "jailer_path" = true := hm.mpr (List.isInfix_iff.mp (by decide))
  have hstar : ("/usr/bin/" ++ "*" : String) = "/usr/bin/*" := by decide
  obtain ⟨hvalid, hm1⟩ := hG.star "/usr/bin/" "/usr/bin/../../tmp/x" (by decide)
  obtain ⟨-, hm2⟩ := hG.star "/usr/bin/" "/tmp/x" (by decide)
  rw [hstar] at hvalid hm1 hm2
  have hesc : G.pattern_matches "/usr/bin/*" "/usr/bin/../../tmp/x" = true := hm1.mpr (by decide)
  have hout : G.pattern_matches "/usr/bin/*" "/tmp/x" = false := by
    cases h : G.pattern_matches "/usr/bin/*" "/tmp/x" with
    | false => rfl
    | true => exact absurd (hm2.mp h) (by decide)
  have hb : base_name KATA_ANNO_CFG_HYPERVISOR_JAILER_PATH = some "jailer_path" := by decide
  refine ⟨hb, rfl, rfl, ?_, by decide, hout, ?_⟩
  · -- runtime-rs: the annotation is enabled and the raw value passes the jailer's glob
    have hen : is_annotation_enabled R rs_sample.enable_annotations
        KATA_ANNO_CFG_HYPERVISOR_JAILER_PATH = true := by
      simp [is_annotation_enabled, hb, rs_sample, hc, hmatch]
    have hval : rs_sample.validate_jailer_path G "/usr/bin/../../tmp/x" = .ok () := by
      simp [Hypervisor.validate_jailer_path, validate_path_pattern, rs_sample, hvalid, hesc]
    have h1 : KATA_ANNO_CFG_HYPERVISOR_JAILER_PATH ≠ KATA_ANNO_CFG_HYPERVISOR_PATH := by decide
    have h2 : KATA_ANNO_CFG_HYPERVISOR_JAILER_PATH ≠ KATA_ANNO_CFG_HYPERVISOR_CTLPATH := by decide
    simp only [ update_config_by_annotation, hen, if_true, update_path, h1, h2, if_false, hval,
      Except.ok_bind_eq, Except.pure_eq_ok]
  · -- Go: the name check passes and the value is the glob's expansion
    have hname : checkAnnotationNameIsValid R go_runtime_sample.EnableAnnotations
        KATA_ANNO_CFG_HYPERVISOR_JAILER_PATH = true := by
      simp [checkAnnotationNameIsValid, hb, go_runtime_sample, regexpContains, hc, hmatch]
    have hnames : jailer_annotations.forM (check_annotation_name R go_runtime_sample) = .ok () := by
      refine Except.forM_eq_ok_iff.mpr fun a ha => ?_
      simp only [jailer_annotations, List.mem_singleton] at ha
      subst ha
      simp [check_annotation_name, hname]
    have hglobs : checkPathIsInGlobs glob go_runtime_sample.JailerPathList "/usr/bin/jailer" = true := by
      simp [checkPathIsInGlobs, go_runtime_sample, hglob]
    have l1 : lookup jailer_annotations KATA_ANNO_CFG_HYPERVISOR_VIRTIO_FS_DAEMON = none := by decide
    have l2 : lookup jailer_annotations KATA_ANNO_CFG_HYPERVISOR_PATH = none := by decide
    have l3 : lookup jailer_annotations KATA_ANNO_CFG_HYPERVISOR_JAILER_PATH =
        some "/usr/bin/jailer" := by decide
    have l4 : lookup jailer_annotations KATA_ANNO_CFG_HYPERVISOR_CTLPATH = none := by decide
    have l5 : lookup jailer_annotations VhostUserStorePath = none := by decide
    have l6 : lookup jailer_annotations KATA_ANNO_CFG_HYPERVISOR_ENTROPY_SOURCE = none := by decide
    simp only [addAnnotations, hnames, Except.ok_bind_eq, addPathOverrides, override_path, l1, l2,
      l3, l4, l5, l6, hglobs, Bool.not_true, Bool.false_eq_true, if_false, Except.pure_eq_ok]

/-- `filepath.Glob` on a host whose `/usr/bin` holds only `jailer`. -/
def usr_bin_glob (g : String) : List String :=
  if g = "/usr/bin/*" then ["/usr/bin/jailer"] else []

end KataContainers.Runtime
