import Clusteradm.Join.World

/-!
# `complete`: from flags to a CA-pinned hub kubeconfig

The join command first talks to the hub with a token and no CA (`createExternalBootstrapConfig`, TLS
verification off), and over that insecure client fetches what it needs to pin trust: the hub's CA data,
unless `--ca-file` gave it, and, when `--force-internal-endpoint-lookup` is set, the hub's in-cluster
endpoint. `createClientcmdapiv1Config` copies the insecure config, turns verification on and sets the CA data.
A lookup that fails with `NotFound` is tolerated; the string it returned is kept all the same.
-/

namespace Clusteradm.Join

/-! ## Definitions -/

/-- Make the call `c` and return its outcome as it is, error included. -/
def call {α : Type} (c : Call) (r : α) : JoinM α := do
  modify (World.record c)
  pure r

/-- `cfg.Clusters[0].Cluster = f(cfg.Clusters[0].Cluster)`, which panics when `cfg` has no cluster. -/
def updateCluster0 (cfg : Config) (f : Cluster → Cluster) : JoinM Config :=
  match cfg.modifyCluster0 f with
  | some cfg => pure cfg
  | none => throw (.panic "index out of range")

/-- `createExternalBootstrapConfig`: the token and the hub's address, with no CA and TLS verification off. -/
def createExternalBootstrapConfig (o : Options) : Config where
  clusters := [{ name := "hub",
                 cluster := { server := o.hubAPIServer, insecureSkipTLSVerify := true,
                              certificateAuthorityData := [] } }]
  authInfos := [{ name := "bootstrap", authInfo := { token := o.token } }]
  contexts := [{ name := "bootstrap",
                 context := { cluster := "hub", authInfo := "bootstrap", defaultNamespace := "default" } }]
  currentContext := "bootstrap"

/-- `if err != nil { if !errors.IsNotFound(err) { return nil, err } }`: the lookup's error, unless it is
`NotFound`. -/
def fatalLookupError : Option GoError → Option GoError
  | some err => if !err.isNotFound then some err else none
  | none => none

/-- The head of `createClientcmdapiv1Config`: with `forceHubInClusterEndpointLookup`, store what
`GetAPIServer` returns over the insecure client as the in-cluster endpoint, error or not. The result is the
error that ends `createClientcmdapiv1Config`: any error but `NotFound`. -/
def lookupHubInClusterEndpoint (env : Env) (externalClientUnSecure : Clientset) :
    JoinM (Option GoError) := do
  if (← getOpts).forceHubInClusterEndpointLookup then
    let (hubInClusterEndpoint, err) ←
      call (.getAPIServer externalClientUnSecure) (env.getAPIServer externalClientUnSecure)
    modifyOpts fun o => { o with hubInClusterEndpoint }
    return fatalLookupError err
  return none

/-- The rest of `createClientcmdapiv1Config`: a copy of the insecure config with verification on, the hub's
address, and the CA data of `--ca-file` or else the CA the insecure client fetches. -/
def pinBootstrapConfig (env : Env) (externalClientUnSecure : Clientset)
    (bootstrapExternalConfigUnSecure : Config) : JoinM (Option Config × Option GoError) := do
  let o ← getOpts
  let bootstrapConfig := bootstrapExternalConfigUnSecure
  let bootstrapConfig ← updateCluster0 bootstrapConfig fun c => { c with insecureSkipTLSVerify := false }
  let bootstrapConfig ← updateCluster0 bootstrapConfig fun c => { c with server := o.hubAPIServer }
  match o.hubCADate with
  | some hubCADate =>
      return (some (← updateCluster0 bootstrapConfig fun c =>
        { c with certificateAuthorityData := hubCADate }), none)
  | none =>
      match ← call (.getCACert externalClientUnSecure) (env.getCACert externalClientUnSecure) with
      | .error err => return (none, some err)
      | .ok ca =>
          return (some (← updateCluster0 bootstrapConfig fun c =>
            { c with certificateAuthorityData := ca }), none)

/-- `createClientcmdapiv1Config`, returning Go's pair: the pinned config, or the error. -/
def createClientcmdapiv1Config (env : Env) (externalClientUnSecure : Clientset)
    (bootstrapExternalConfigUnSecure : Config) : JoinM (Option Config × Option GoError) := do
  match ← lookupHubInClusterEndpoint env externalClientUnSecure with
  | some err => return (none, some err)
  | none => pinBootstrapConfig env externalClientUnSecure bootstrapExternalConfigUnSecure

/-- `if err != nil { return err }`. -/
def propagate (err : Option GoError) : JoinM Unit :=
  match err with
  | some err => throw (.error err)
  | none => pure ()

/-- `if o.caFile != "" { cabytes, err := os.ReadFile(o.caFile); ...; o.HubCADate = cabytes }`. -/
def readCAFile (env : Env) (caFile : String) : JoinM Unit := do
  if caFile ≠ "" then
    let cabytes ← invoke (.readFile caFile) (env.readFile caFile)
    modifyOpts fun o => { o with hubCADate := some cabytes }

/-- The required flags, checked in order before anything else. -/
def checkRequired (o : Options) : JoinM Unit := do
  if o.token = "" then fail "token is missing"
  if o.hubAPIServer = "" then fail "hub-server is missing"
  if o.clusterName = "" then fail "name is missing"
  if o.registry.length = 0 then
    fail "the OCM image registry should not be empty, like quay.io/open-cluster-management"

/-- The required flags, the template values with the version bundle, and the CA data of `--ca-file`: lines
62-110 of `complete`. -/
def renderValues (env : Env) : JoinM Unit := do
  checkRequired (← getOpts)
  modifyOpts fun o => { o with values := { clusterName := o.clusterName,
                                           hub := { apiServer := o.hubAPIServer },
                                           registry := o.registry } }
  let o ← getOpts
  let versionBundle ← invoke (.getVersionBundle o.bundleVersion) (env.getVersionBundle o.bundleVersion)
  modifyOpts fun o => { o with values := { o.values with bundleVersion := {
    registrationImageVersion := versionBundle.registration,
    placementImageVersion := versionBundle.placement,
    workImageVersion := versionBundle.work,
    operatorImageVersion := versionBundle.operator } } }
  readCAFile env o.caFile

/-- The insecure bootstrap client and the hub config pinned over it: lines 112-127 of `complete`. -/
def buildHubConfig (env : Env) : JoinM Unit := do
  let bootstrapExternalConfigUnSecure := createExternalBootstrapConfig (← getOpts)
  invoke (.createClientFromClientcmdapiv1Config bootstrapExternalConfigUnSecure)
    (env.createClientFromClientcmdapiv1Config bootstrapExternalConfigUnSecure)
  let externalClientUnSecure := Clientset.ofKubeconfig bootstrapExternalConfigUnSecure
  let (hubConfig, err) ←
    createClientcmdapiv1Config env externalClientUnSecure bootstrapExternalConfigUnSecure
  modifyOpts fun o => { o with hubConfig }
  propagate err

/-- The joining cluster's own API server, for the klusterlet: lines 129-143 of `complete`. -/
def setKlusterletAPIServer (env : Env) : JoinM Unit := do
  invoke .kubernetesClientSet env.kubernetesClientSet
  let (klusterletApiserver, err) ← call (.getAPIServer .ofFactory) (env.getAPIServer .ofFactory)
  let klusterletApiserver :=
    if err.isSome then "" else if !env.validAPIHost klusterletApiserver then "" else klusterletApiserver
  modifyOpts fun o => { o with values := { o.values with
    klusterlet := { o.values.klusterlet with apiServer := klusterletApiserver } } }

/-- `complete`, in the three parts its comments separate. -/
def complete (env : Env) : JoinM Unit := do
  renderValues env
  buildHubConfig env
  setKlusterletAPIServer env

/-! ## What each step does -/

/-- The insecure client, built from `createExternalBootstrapConfig`. -/
def hubClient (o : Options) : Clientset := .ofKubeconfig (createExternalBootstrapConfig o)

/-- The insecure bootstrap config for `o` with verification on, server `server` and CA data `ca`: the config
`createClientcmdapiv1Config` builds (with `o.hubAPIServer`), and the one `setKubeconfig` serializes. -/
def pinnedConfig (o : Options) (server : String) (ca : Bytes) : Config :=
  { createExternalBootstrapConfig o with
    clusters := [{ name := "hub",
                   cluster := { server, insecureSkipTLSVerify := false, certificateAuthorityData := ca } }] }

/-- The CA data `complete` pins for `o`: the bytes of `--ca-file`; else a `HubCADate` already set; else
what `GetCACert` returned over the insecure client. -/
def PinnedCA (env : Env) (o : Options) (ca : Bytes) : Prop :=
  if o.caFile ≠ "" then env.readFile o.caFile = .ok ca
  else match o.hubCADate with
    | some b => ca = b
    | none => env.getCACert (hubClient o) = .ok ca

/-- The `HubCADate` that `renderValues` leaves from receiver `o`: the bytes of `--ca-file` when it is set,
else the one already there. -/
def ReadCAData (env : Env) (o : Options) (hubCADate : Option Bytes) : Prop :=
  if o.caFile ≠ "" then ∃ b, env.readFile o.caFile = .ok b ∧ hubCADate = some b else hubCADate = o.hubCADate

/-- The flags `complete` requires, each with the message its absence is reported with, in the order
checked. -/
def requiredFlags (o : Options) : List (String × String) :=
  [(o.token, "token is missing"), (o.hubAPIServer, "hub-server is missing"),
   (o.clusterName, "name is missing"),
   (o.registry, "the OCM image registry should not be empty, like quay.io/open-cluster-management")]

/-- The message of the first required flag that is empty, if any. -/
def missingFlag (o : Options) : Option String :=
  ((requiredFlags o).find? (·.1 = "")).map (·.2)

/-- The klusterlet's API server `complete` renders: the joining cluster's own, when `GetAPIServer` on the
factory gives it without error and it is a valid API host, else empty. -/
def klusterletAPIServer (env : Env) : String :=
  match env.getAPIServer .ofFactory with
  | (apiServer, none) => if env.validAPIHost apiServer then apiServer else ""
  | (_, some _) => ""

theorem klusterletAPIServer_eq (env : Env) :
    klusterletAPIServer env =
      if (env.getAPIServer .ofFactory).2.isSome then ""
      else if !env.validAPIHost (env.getAPIServer .ofFactory).1 then ""
      else (env.getAPIServer .ofFactory).1 := by
  unfold klusterletAPIServer
  rcases env.getAPIServer .ofFactory with ⟨apiServer, _ | e⟩
  · cases h : env.validAPIHost apiServer <;> simp [h]
  · rfl

/-- The template values a successful `complete` leaves, from the version bundle `vb`: every field it does
not set is reset to its zero value. -/
def completeValues (env : Env) (o : Options) (vb : VersionBundle) : Values :=
  { clusterName := o.clusterName, hub := { apiServer := o.hubAPIServer },
    klusterlet := { apiServer := klusterletAPIServer env }, registry := o.registry,
    bundleVersion := { registrationImageVersion := vb.registration, placementImageVersion := vb.placement,
                       workImageVersion := vb.work, operatorImageVersion := vb.operator } }

/-- The calls a successful `complete` makes, in order. -/
def completeCalls (o : Options) : List Call :=
  [.getVersionBundle o.bundleVersion] ++
  (if o.caFile ≠ "" then [.readFile o.caFile] else []) ++
  [.createClientFromClientcmdapiv1Config (createExternalBootstrapConfig o)] ++
  (if o.forceHubInClusterEndpointLookup then [.getAPIServer (hubClient o)] else []) ++
  (if o.caFile = "" ∧ o.hubCADate = none then [.getCACert (hubClient o)] else []) ++
  [.kubernetesClientSet, .getAPIServer .ofFactory]

@[simp] theorem call_apply {α : Type} (c : Call) (r : α) (w : World) :
    call c r w = .ok r (w.record c) := rfl

@[simp] theorem propagate_eq_ok {err : Option GoError} {w w' : World} {u : Unit} :
    propagate err w = .ok u w' ↔ err = none ∧ w = w' := by
  cases err <;> simp [propagate]

/-- `checkRequired` reports the first empty required flag, and changes nothing. -/
theorem checkRequired_apply (o : Options) (w : World) :
    checkRequired o w = match missingFlag o with
      | some msg => .error (.error (.text msg)) w
      | none => .ok () w := by
  unfold checkRequired missingFlag requiredFlags
  by_cases h1 : o.token = "" <;> by_cases h2 : o.hubAPIServer = "" <;>
    by_cases h3 : o.clusterName = "" <;> by_cases h4 : o.registry = "" <;>
    simp [h1, h2, h3, h4, string_length_eq_zero]

theorem checkRequired_eq_ok {o : Options} {w w' : World} {u : Unit} :
    checkRequired o w = .ok u w' ↔ missingFlag o = none ∧ w = w' := by
  rw [checkRequired_apply]
  cases missingFlag o <;> simp

theorem readCAFile_eq_ok {env : Env} {caFile : String} {w w' : World} {u : Unit} :
    readCAFile env caFile w = .ok u w' ↔
      if caFile ≠ "" then ∃ b, env.readFile caFile = .ok b ∧
        w' = { w.record (.readFile caFile) with opts := { w.opts with hubCADate := some b } }
      else w = w' := by
  unfold readCAFile
  split
  · rw [EStateM.bind_apply, invoke_apply]
    cases env.readFile caFile <;> simp [eq_comm]
  · simp

theorem lookupHubInClusterEndpoint_apply (env : Env) (client : Clientset) (w : World) :
    lookupHubInClusterEndpoint env client w =
      if w.opts.forceHubInClusterEndpointLookup then
        .ok (fatalLookupError (env.getAPIServer client).2)
          { w.record (.getAPIServer client) with
            opts := { w.opts with hubInClusterEndpoint := (env.getAPIServer client).1 } }
      else .ok none w := by
  unfold lookupHubInClusterEndpoint
  split <;> simp_all

/-- On the bootstrap config the three writes to `Clusters[0]` cannot panic. -/
theorem pinBootstrapConfig_bootstrap (env : Env) (client : Clientset) (o : Options) (w : World) :
    pinBootstrapConfig env client (createExternalBootstrapConfig o) w =
      match w.opts.hubCADate with
      | some b => .ok (some (pinnedConfig o w.opts.hubAPIServer b), none) w
      | none => match env.getCACert client with
        | .error e => .ok (none, some e) (w.record (.getCACert client))
        | .ok ca =>
            .ok (some (pinnedConfig o w.opts.hubAPIServer ca), none) (w.record (.getCACert client)) := by
  unfold pinBootstrapConfig
  rcases h : w.opts.hubCADate with _ | b
  · rcases env.getCACert client with e | ca <;>
      simp [h, pinnedConfig, updateCluster0, Config.modifyCluster0, createExternalBootstrapConfig]
  · simp [h, pinnedConfig, updateCluster0, Config.modifyCluster0, createExternalBootstrapConfig]

theorem pinBootstrapConfig_bootstrap_eq_ok {env : Env} {client : Clientset} {o : Options}
    {w w' : World} {r : Option Config}
    (h : pinBootstrapConfig env client (createExternalBootstrapConfig o) w = .ok (r, none) w')
    (hs : w.opts.hubAPIServer = o.hubAPIServer) :
    ∃ ca, r = some (pinnedConfig o o.hubAPIServer ca) ∧
      (match w.opts.hubCADate with
        | some b => ca = b
        | none => env.getCACert client = .ok ca) ∧
      w' = if w.opts.hubCADate = none then w.record (.getCACert client) else w := by
  rw [pinBootstrapConfig_bootstrap, hs] at h
  rcases hc : w.opts.hubCADate with _ | b
  · rcases hg : env.getCACert client with e | ca <;> simp only [hc, hg] at h
    · cases h
    · cases h
      exact ⟨ca, rfl, rfl, by simp⟩
  · simp only [hc] at h
    cases h
    exact ⟨b, rfl, rfl, by simp⟩

/-- A `createClientcmdapiv1Config` on the bootstrap config that returned no error: the lookup, if made, was
tolerated, and the config is pinned to the CA of `HubCADate` or of `GetCACert`. -/
theorem createClientcmdapiv1Config_bootstrap_eq_ok {env : Env} {o : Options} {w w' : World}
    {r : Option Config}
    (h : createClientcmdapiv1Config env (hubClient o) (createExternalBootstrapConfig o) w =
      .ok (r, none) w')
    (hs : w.opts.hubAPIServer = o.hubAPIServer) :
    (w.opts.forceHubInClusterEndpointLookup →
      fatalLookupError (env.getAPIServer (hubClient o)).2 = none) ∧
    ∃ ca, r = some (pinnedConfig o o.hubAPIServer ca) ∧
      (match w.opts.hubCADate with
        | some b => ca = b
        | none => env.getCACert (hubClient o) = .ok ca) ∧
      w'.opts = { w.opts with hubInClusterEndpoint := if w.opts.forceHubInClusterEndpointLookup
        then (env.getAPIServer (hubClient o)).1 else w.opts.hubInClusterEndpoint } ∧
      w'.phase = w.phase ∧
      w'.log = w.log ++ (if w.opts.forceHubInClusterEndpointLookup then [.getAPIServer (hubClient o)] else [])
        ++ (if w.opts.hubCADate = none then [.getCACert (hubClient o)] else []) := by
  unfold createClientcmdapiv1Config at h
  rw [EStateM.bind_apply, lookupHubInClusterEndpoint_apply] at h
  by_cases hf : w.opts.forceHubInClusterEndpointLookup
  · simp only [hf, if_true] at h
    cases hl : fatalLookupError (env.getAPIServer (hubClient o)).2 with
    | some err => simp [hl] at h
    | none =>
        simp only [hl] at h
        obtain ⟨ca, rfl, hca, rfl⟩ := pinBootstrapConfig_bootstrap_eq_ok h hs
        refine ⟨fun _ => rfl, ca, rfl, hca, ?_⟩
        split <;> simp [hf]
  · simp only [hf] at h
    obtain ⟨ca, rfl, hca, rfl⟩ := pinBootstrapConfig_bootstrap_eq_ok h hs
    refine ⟨by simp [hf], ca, rfl, hca, by rw [if_neg hf]; split <;> rfl, ?_⟩
    split <;> simp [hf]

/-- A successful `renderValues`: the version bundle was fetched, the values are those of `completeValues`
but for the klusterlet's, still empty, and `HubCADate` is the one `ReadCAData` describes. -/
theorem renderValues_eq_ok {env : Env} {w w' : World} {u : Unit} (h : renderValues env w = .ok u w') :
    ∃ vb hubCADate, env.getVersionBundle w.opts.bundleVersion = .ok vb ∧ ReadCAData env w.opts hubCADate ∧
      w' = { opts := { w.opts with values := { completeValues env w.opts vb with klusterlet := {} }, hubCADate },
             phase := w.phase,
             log := w.log ++ .getVersionBundle w.opts.bundleVersion ::
               if w.opts.caFile ≠ "" then [.readFile w.opts.caFile] else [] } := by
  rw [renderValues, getOpts_bind_apply] at h
  obtain ⟨_, _, hchk, h⟩ := EStateM.bind_eq_ok.mp h
  obtain ⟨-, rfl⟩ := checkRequired_eq_ok.mp hchk
  rw [modifyOpts_bind_apply, getOpts_bind_apply, invoke_bind_eq_ok] at h
  obtain ⟨vb, hvb, h⟩ := h
  rw [modifyOpts_bind_apply, readCAFile_eq_ok] at h
  refine ⟨vb, ?_⟩
  unfold ReadCAData
  split at h
  · next hf =>
      obtain ⟨b, hb, rfl⟩ := h
      exact ⟨some b, hvb, by simpa [hf] using hb, by simp [hf, completeValues]⟩
  · next hf =>
      subst h
      exact ⟨w.opts.hubCADate, hvb, by simp [hf], by simp [hf, completeValues]⟩

/-- A successful `buildHubConfig`: a forced lookup was tolerated and its string stored, and the hub config is
the bootstrap config pinned to the CA of `HubCADate`, or else of `GetCACert`. -/
theorem buildHubConfig_eq_ok {env : Env} {w w' : World} {u : Unit} (h : buildHubConfig env w = .ok u w') :
    (w.opts.forceHubInClusterEndpointLookup →
      fatalLookupError (env.getAPIServer (hubClient w.opts)).2 = none) ∧
    ∃ ca, (match w.opts.hubCADate with
        | some b => ca = b
        | none => env.getCACert (hubClient w.opts) = .ok ca) ∧
      w' = { opts := { w.opts with
               hubConfig := some (pinnedConfig w.opts w.opts.hubAPIServer ca),
               hubInClusterEndpoint := if w.opts.forceHubInClusterEndpointLookup
                 then (env.getAPIServer (hubClient w.opts)).1 else w.opts.hubInClusterEndpoint },
             phase := w.phase,
             log := w.log ++ .createClientFromClientcmdapiv1Config (createExternalBootstrapConfig w.opts) ::
               ((if w.opts.forceHubInClusterEndpointLookup then [.getAPIServer (hubClient w.opts)] else []) ++
                 if w.opts.hubCADate = none then [.getCACert (hubClient w.opts)] else []) } := by
  rw [buildHubConfig, getOpts_bind_apply, invoke_bind_eq_ok] at h
  obtain ⟨_, -, h⟩ := h
  obtain ⟨⟨r, err⟩, ⟨opts, phase, log⟩, hcfg, h⟩ := EStateM.bind_eq_ok.mp h
  dsimp only at h
  rw [modifyOpts_bind_apply, propagate_eq_ok] at h
  obtain ⟨rfl, rfl⟩ := h
  obtain ⟨hlook, ca, rfl, hca, hopts, hphase, hlog⟩ := createClientcmdapiv1Config_bootstrap_eq_ok hcfg rfl
  refine ⟨hlook, ca, hca, ?_⟩
  simp only [World.record_opts, World.record_phase, World.record_log] at hopts hphase hlog
  subst hopts hphase hlog
  simp

/-- A successful `setKlusterletAPIServer` renders `klusterletAPIServer`. -/
theorem setKlusterletAPIServer_eq_ok {env : Env} {w w' : World} {u : Unit}
    (h : setKlusterletAPIServer env w = .ok u w') :
    w' = { opts := { w.opts with values := { w.opts.values with
             klusterlet := { w.opts.values.klusterlet with apiServer := klusterletAPIServer env } } },
           phase := w.phase, log := w.log ++ [.kubernetesClientSet, .getAPIServer .ofFactory] } := by
  rw [setKlusterletAPIServer, invoke_bind_eq_ok] at h
  obtain ⟨_, -, h⟩ := h
  simp only [EStateM.bind_apply, call_apply, modifyOpts_apply, EStateM.Result.ok.injEq] at h
  obtain ⟨-, rfl⟩ := h
  simp [klusterletAPIServer_eq]

/-- The CA `buildHubConfig` pins after `renderValues` is the one `PinnedCA` names. -/
theorem pinnedCA_of_readCAData {env : Env} {o : Options} {hubCADate : Option Bytes} {ca : Bytes}
    (hca : match hubCADate with
      | some b => ca = b
      | none => env.getCACert (hubClient o) = .ok ca)
    (hread : ReadCAData env o hubCADate) : PinnedCA env o ca := by
  unfold ReadCAData at hread
  unfold PinnedCA
  by_cases hf : o.caFile ≠ ""
  · obtain ⟨b, hb, rfl⟩ := (if_pos hf).subst (motive := id) hread
    rw [if_pos hf, hca, hb]
  · rw [if_neg hf] at hread ⊢
    rw [← hread]
    exact hca

/-- `renderValues` leaves no CA for `GetCACert` to fetch exactly when no CA was given. -/
theorem readCAData_eq_none_iff {env : Env} {o : Options} {hubCADate : Option Bytes}
    (hread : ReadCAData env o hubCADate) : hubCADate = none ↔ o.caFile = "" ∧ o.hubCADate = none := by
  unfold ReadCAData at hread
  by_cases hf : o.caFile ≠ ""
  · rw [if_pos hf] at hread
    obtain ⟨b, -, rfl⟩ := hread
    simp [hf]
  · rw [if_neg hf] at hread
    simp [hread, not_not.mp hf]

/-- **A successful `complete`.** The hub config is the insecure one pinned to the CA of `--ca-file`, of a
preset `HubCADate`, or of `GetCACert`; a forced lookup was tolerated and its string stored; the template
values are `completeValues`; no other field of the receiver changes; the calls made are `completeCalls`. -/
theorem complete_eq_ok {env : Env} {w w' : World} {u : Unit} (h : complete env w = .ok u w') :
    ∃ ca, PinnedCA env w.opts ca ∧
      (w.opts.forceHubInClusterEndpointLookup →
        fatalLookupError (env.getAPIServer (hubClient w.opts)).2 = none) ∧
      w'.opts.hubConfig = some (pinnedConfig w.opts w.opts.hubAPIServer ca) ∧
      w'.opts.hubInClusterEndpoint = (if w.opts.forceHubInClusterEndpointLookup
        then (env.getAPIServer (hubClient w.opts)).1 else w.opts.hubInClusterEndpoint) ∧
      { w'.opts with
        values := w.opts.values, hubCADate := w.opts.hubCADate, hubConfig := w.opts.hubConfig,
        hubInClusterEndpoint := w.opts.hubInClusterEndpoint } = w.opts ∧
      w'.log = w.log ++ completeCalls w.opts ∧
      ∃ vb, env.getVersionBundle w.opts.bundleVersion = .ok vb ∧
        w'.opts.values = completeValues env w.opts vb := by
  rw [complete] at h
  obtain ⟨_, w₁, h₁, h⟩ := EStateM.bind_eq_ok.mp h
  obtain ⟨_, w₂, h₂, h₃⟩ := EStateM.bind_eq_ok.mp h
  obtain ⟨vb, hubCADate, hvb, hread, rfl⟩ := renderValues_eq_ok h₁
  obtain ⟨hlook, ca, hca, rfl⟩ := buildHubConfig_eq_ok h₂
  obtain rfl := setKlusterletAPIServer_eq_ok h₃
  refine ⟨ca, pinnedCA_of_readCAData hca hread, hlook, rfl, rfl, rfl, ?_, vb, hvb, rfl⟩
  simp only [completeCalls, readCAData_eq_none_iff hread, List.append_assoc, List.cons_append,
    List.singleton_append]
  rfl

/-! ## `complete` never panics -/

theorem createClientcmdapiv1Config_bootstrap_neverPanics (env : Env) (client : Clientset) (o : Options) :
    NeverPanics (createClientcmdapiv1Config env client (createExternalBootstrapConfig o)) := by
  have hpin : ∀ w, ∃ r w', pinBootstrapConfig env client (createExternalBootstrapConfig o) w = .ok r w' := by
    intro w
    rw [pinBootstrapConfig_bootstrap]
    split
    · exact ⟨_, _, rfl⟩
    · split <;> exact ⟨_, _, rfl⟩
  refine NeverPanics.of_ok fun w => ?_
  unfold createClientcmdapiv1Config
  rw [EStateM.bind_apply, lookupHubInClusterEndpoint_apply]
  by_cases hf : w.opts.forceHubInClusterEndpointLookup
  · rw [if_pos hf]
    cases fatalLookupError (env.getAPIServer client).2
    · exact hpin _
    · exact ⟨_, _, rfl⟩
  · rw [if_neg hf]
    exact hpin w

theorem renderValues_neverPanics (env : Env) : NeverPanics (renderValues env) := by
  have hcheck : ∀ o, NeverPanics (checkRequired o) := fun o w what w' => by
    rw [checkRequired_apply]
    split <;> rintro ⟨⟩
  have hread : ∀ caFile, NeverPanics (readCAFile env caFile) := fun caFile =>
    .ite _ (.bind (.invoke _ _) fun _ => .modify _) (.pure _)
  exact .bind .getOpts fun o => .bind (hcheck o) fun _ => .bind (.modify _) fun _ =>
    .bind .getOpts fun o => .bind (.invoke _ _) fun _ => .bind (.modify _) fun _ => hread _

theorem buildHubConfig_neverPanics (env : Env) : NeverPanics (buildHubConfig env) := by
  have hpropagate : ∀ err, NeverPanics (propagate err) := by
    rintro (_ | err) w what w' <;> rintro ⟨⟩
  exact .bind .getOpts fun o => .bind (.invoke _ _) fun _ =>
    .bind (createClientcmdapiv1Config_bootstrap_neverPanics _ _ _) fun ⟨hubConfig, err⟩ =>
      .bind (.modify _) fun _ => hpropagate err

theorem setKlusterletAPIServer_neverPanics (env : Env) : NeverPanics (setKlusterletAPIServer env) :=
  .bind (.invoke _ _) fun _ => .bind (.of_ok fun _ => ⟨_, _, rfl⟩) fun _ => .modify _

/-- `complete` never panics: whatever the flags and the outcomes of the calls, the writes to
`Clusters[0]` find the one cluster of the bootstrap config. -/
theorem complete_neverPanics (env : Env) : NeverPanics (complete env) :=
  .bind (renderValues_neverPanics env) fun _ => .bind (buildHubConfig_neverPanics env) fun _ =>
    setKlusterletAPIServer_neverPanics env

/-! ## The calls `complete` makes, on every exit -/

theorem Appends.call {I : CallsInvariant} {α : Type} (c : Call) (r : α) (hc : I.holds [c]) :
    Appends I (call c r) :=
  fun _ => ⟨[c], rfl, hc⟩

theorem Appends.updateCluster0 {I : CallsInvariant} (cfg : Config) (f : Cluster → Cluster) :
    Appends I (updateCluster0 cfg f) :=
  .of_log fun w => by unfold Join.updateCluster0; cases cfg.modifyCluster0 f <;> rfl

/-- On the bootstrap config, `createClientcmdapiv1Config` looks the in-cluster endpoint up only when forced,
and fetches the CA only when none is preset. -/
theorem createClientcmdapiv1Config_bootstrap_calls (env : Env) (client : Clientset) (o : Options) (w : World) :
    AppendsFrom (everyCall fun c =>
        c = .getAPIServer client ∧ w.opts.forceHubInClusterEndpointLookup = true ∨
        c = .getCACert client ∧ w.opts.hubCADate = none)
      (createClientcmdapiv1Config env client (createExternalBootstrapConfig o)) w := by
  refine AppendsFrom.bind ?_ fun err w₁ h => ?_
  · rw [AppendsFrom, lookupHubInClusterEndpoint_apply]
    split
    · next hf => exact ⟨_, rfl, by simp [hf]⟩
    · exact ⟨[], by simp, by simp⟩
  · rw [lookupHubInClusterEndpoint_apply] at h
    have hca : w₁.opts.hubCADate = w.opts.hubCADate := by split at h <;> cases h <;> rfl
    cases err
    · dsimp only
      rw [AppendsFrom, pinBootstrapConfig_bootstrap, hca]
      split
      · exact ⟨[], by simp, by simp⟩
      · next hn => split <;> exact ⟨_, rfl, by simp [hn]⟩
    · exact ⟨[], by simp, by simp⟩

/-- On every exit, `renderValues` has fetched the version bundle, and read `--ca-file` only when it is set. -/
theorem renderValues_calls (env : Env) (w : World) :
    AppendsFrom (everyCall fun c =>
        c = .getVersionBundle w.opts.bundleVersion ∨ c = .readFile w.opts.caFile ∧ w.opts.caFile ≠ "")
      (renderValues env) w := by
  refine .bind_of_ok rfl rfl ?_
  refine (Appends.of_log (fun w => by rw [checkRequired_apply]; split <;> rfl) w).bind fun _ _ h => ?_
  obtain ⟨-, rfl⟩ := checkRequired_eq_ok.mp h
  refine .bind_of_ok rfl rfl (.bind_of_ok rfl rfl
    (Appends.bind (.invoke _ _ (by simp)) (fun _ => .bind (.modifyOpts _) fun _ => ?_) _))
  unfold readCAFile
  split
  · next hf => exact .bind (.invoke _ _ (by simp [hf])) fun _ => .modifyOpts _
  · exact .pure _

/-- On every exit, `buildHubConfig` has built the insecure client, looked the in-cluster endpoint up only when
forced, and fetched the CA only when none is preset. -/
theorem buildHubConfig_calls (env : Env) (w : World) :
    AppendsFrom (everyCall fun c =>
        c = .createClientFromClientcmdapiv1Config (createExternalBootstrapConfig w.opts) ∨
        c = .getAPIServer (hubClient w.opts) ∧ w.opts.forceHubInClusterEndpointLookup = true ∨
        c = .getCACert (hubClient w.opts) ∧ w.opts.hubCADate = none)
      (buildHubConfig env) w := by
  refine .bind_of_ok rfl rfl (.invoke_bind (by simp) fun _ _ => ?_)
  refine ((createClientcmdapiv1Config_bootstrap_calls env _ _ _).mono ?_).bind fun ⟨hubConfig, err⟩ _ _ =>
    (Appends.bind (.modifyOpts _) fun _ => .of_log fun _ => by unfold propagate; split <;> rfl) _
  intro calls h c hc
  rcases h c hc with ⟨rfl, hf⟩ | ⟨rfl, hn⟩
  · exact .inr (.inl ⟨rfl, hf⟩)
  · exact .inr (.inr ⟨rfl, hn⟩)

theorem setKlusterletAPIServer_calls (env : Env) :
    Appends (everyCall fun c => c = .kubernetesClientSet ∨ c = .getAPIServer .ofFactory)
      (setKlusterletAPIServer env) :=
  .bind (.invoke _ _ (by simp)) fun _ => .bind (.call _ _ (by simp)) fun _ => .modifyOpts _

/-- On every exit, `complete` has made only calls its successful run makes. -/
theorem complete_calls (env : Env) (w : World) :
    AppendsFrom (everyCall (· ∈ completeCalls w.opts)) (complete env) w := by
  refine ((renderValues_calls env w).mono ?_).bind fun _ w₁ h₁ => ?_
  · intro calls h c hc
    rcases h c hc with rfl | ⟨rfl, hf⟩ <;> simp_all [completeCalls]
  obtain ⟨vb, hubCADate, -, hread, rfl⟩ := renderValues_eq_ok h₁
  refine ((buildHubConfig_calls env _).mono ?_).bind fun _ _ _ => (setKlusterletAPIServer_calls env _).mono ?_
  · intro calls h c hc
    rcases h c hc with rfl | ⟨rfl, hf⟩ | ⟨rfl, hn⟩ <;>
      simp_all [completeCalls, hubClient, createExternalBootstrapConfig, readCAData_eq_none_iff hread]
  · intro calls h c hc
    rcases h c hc with rfl | rfl <;> simp [completeCalls]

theorem completeCalls_applied {c : Call} {o : Options} (h : c ∈ completeCalls o) : c.applied = none := by
  simp [completeCalls] at h
  rcases h with rfl | ⟨-, rfl⟩ | rfl | ⟨-, rfl⟩ | ⟨-, rfl⟩ | rfl | rfl <;> rfl

/-- **Over the insecure channel, `complete` asks only what it must.** On every exit, whatever fails, `complete`
has fetched the hub's CA only if no CA was given (neither `--ca-file` nor a preset `HubCADate`), has looked
the hub's in-cluster endpoint up only with `--force-internal-endpoint-lookup`, and has applied nothing. -/
theorem complete_contacts_hub_only_as_needed (env : Env) (w : World) :
    ∃ calls, (complete env w).state.log = w.log ++ calls ∧
      (∀ client, Call.getCACert client ∈ calls → w.opts.caFile = "" ∧ w.opts.hubCADate = none) ∧
      (∀ cfg, Call.getAPIServer (.ofKubeconfig cfg) ∈ calls → w.opts.forceHubInClusterEndpointLookup = true) ∧
      ∀ c ∈ calls, c.applied = none := by
  obtain ⟨calls, hlog, hin⟩ := complete_calls env w
  refine ⟨calls, hlog, fun client h => ?_, fun cfg h => ?_, fun c h => completeCalls_applied (hin c h)⟩ <;>
    have h := hin _ h <;> simp [completeCalls] at h
  · exact h.1
  · exact h.1

end Clusteradm.Join
