import Clusteradm.Join.Complete

/-!
# `validate`: the preflight, then the serialized bootstrap kubeconfig

`validate` runs the `HubKubeconfigCheck` preflight on the pinned hub config and only then lets
`setKubeconfig` replace its server by the in-cluster endpoint, so that no check runs against the internal
address. `setKubeconfig` replaces the server whenever `forceHubInClusterEndpointLookup` is set, whatever the
lookup returned, and serializes the config into `values.Hub.KubeConfig`.
-/

namespace Clusteradm.Join

/-! ## Definitions -/

/-- `o.HubConfig.Clusters[0].Cluster = f(...)`, which panics when `HubConfig` is nil or has no cluster. -/
def updateHubConfigCluster0 (f : Cluster → Cluster) : JoinM Unit := do
  match (← getOpts).hubConfig with
  | none => throw (.panic "invalid memory address or nil pointer dereference")
  | some hubConfig =>
      let hubConfig ← updateCluster0 hubConfig f
      modifyOpts fun o => { o with hubConfig := some hubConfig }

/-- The head of `setKubeconfig`: with `forceHubInClusterEndpointLookup`, the server becomes the stored
in-cluster endpoint. -/
def useHubInClusterEndpoint : JoinM Unit := do
  let o ← getOpts
  if o.forceHubInClusterEndpointLookup then
    updateHubConfigCluster0 fun c => { c with server := o.hubInClusterEndpoint }

/-- `setKubeconfig`. -/
def setKubeconfig (env : Env) : JoinM Unit := do
  useHubInClusterEndpoint
  let o ← getOpts
  let bootstrapConfigBytes ← invoke (.marshal o.hubConfig) (env.marshal o.hubConfig)
  modifyOpts fun o => { o with values := { o.values with
    hub := { o.values.hub with kubeConfig := bootstrapConfigBytes } } }

/-- `validate`. -/
def validate (env : Env) : JoinM Unit := do
  let o ← getOpts
  invoke (.runChecks o.hubConfig) (env.runChecks o.hubConfig)
  setKubeconfig env

/-! ## What `validate` does -/

theorem useHubInClusterEndpoint_pinned (o : Options) (server : String) (ca : Bytes) (w : World)
    (h : w.opts.hubConfig = some (pinnedConfig o server ca)) :
    useHubInClusterEndpoint w =
      .ok ⟨⟩ { w with opts := { w.opts with hubConfig := some (pinnedConfig o
        (if w.opts.forceHubInClusterEndpointLookup then w.opts.hubInClusterEndpoint else server) ca) } } := by
  unfold useHubInClusterEndpoint
  by_cases hf : w.opts.forceHubInClusterEndpointLookup
  · simp [hf, h, updateHubConfigCluster0, updateCluster0, Config.modifyCluster0, pinnedConfig]
  · simp only [EStateM.bind_apply, getOpts_apply, if_neg hf]
    rw [← h]
    rfl

/-- A successful `validate` on a pinned config: the preflight saw it as it was; the config serialized is the
same with the in-cluster endpoint as server when the flag is set; the receiver changes in that config and in
the serialized kubeconfig of the template values only. -/
theorem validate_pinned_eq_ok {env : Env} {w w' : World} {u : Unit} {o : Options} {server : String}
    {ca : Bytes} (hcfg : w.opts.hubConfig = some (pinnedConfig o server ca))
    (h : validate env w = .ok u w') :
    let cfg := pinnedConfig o
      (if w.opts.forceHubInClusterEndpointLookup then w.opts.hubInClusterEndpoint else server) ca
    env.runChecks (some (pinnedConfig o server ca)) = .ok () ∧
      env.marshal (some cfg) = .ok w'.opts.values.hub.kubeConfig ∧
      w'.opts.hubConfig = some cfg ∧
      { w'.opts with hubConfig := w.opts.hubConfig, values := w.opts.values } = w.opts ∧
      { w'.opts.values with
        hub := { w'.opts.values.hub with kubeConfig := w.opts.values.hub.kubeConfig } } = w.opts.values ∧
      w'.log = w.log ++ [.runChecks (some (pinnedConfig o server ca)), .marshal (some cfg)] := by
  simp only [validate, setKubeconfig, EStateM.bind_eq_ok, getOpts_apply, invoke_eq_ok,
    modifyOpts_apply, EStateM.Result.ok.injEq, exists_and_left, exists_eq_left', exists_eq_left,
    exists_eq_right, exists_eq_right', and_assoc, hcfg] at h
  obtain ⟨⟨⟩, hchk, ⟨⟩, w₁, hupd, s, hm, -, rfl⟩ := h
  rw [useHubInClusterEndpoint_pinned _ _ _ (w.record _) hcfg] at hupd
  cases hupd
  refine ⟨hchk, ?_, ?_, rfl, rfl, ?_⟩ <;> simp_all

/-- On a pinned config, `validate` does not panic: `HubConfig` is set and has its one cluster. -/
theorem validate_noPanic_of_pinned (env : Env) {w : World} {o : Options} {server : String} {ca : Bytes}
    (hcfg : w.opts.hubConfig = some (pinnedConfig o server ca)) : NoPanicFrom (validate env) w := by
  refine (NeverPanics.getOpts w).bind fun _ _ h₁ => ?_
  cases h₁
  refine (NeverPanics.invoke _ _ w).bind fun _ w₁ h₂ => ?_
  obtain ⟨-, rfl⟩ := invoke_eq_ok.mp h₂
  refine NoPanicFrom.bind ?_ fun _ w₂ _ =>
    (NeverPanics.bind .getOpts fun _ => .bind (.invoke _ _) fun _ => .modify _) w₂
  rw [NoPanicFrom, useHubInClusterEndpoint_pinned _ _ _ (w.record _) hcfg]
  rintro what w' ⟨⟩

/-- `validate` applies no manifest: on every exit, the calls it made keep any invariant that each call
applying nothing keeps. -/
theorem validate_appends (I : CallsInvariant) (env : Env) (hcall : ∀ c : Call, c.applied = none → I.holds [c]) :
    Appends I (validate env) := by
  have hupd : ∀ f, Appends I (updateHubConfigCluster0 f) := fun f =>
    .bind .getOpts fun o => by
      split
      · exact .throw _
      · exact .bind (.updateCluster0 _ _) fun _ => .modifyOpts _
  exact .bind .getOpts fun _ => .bind (.invoke _ _ (hcall _ rfl)) fun _ =>
    .bind (.bind .getOpts fun _ => .ite _ (hupd _) (.pure _)) fun _ =>
      .bind .getOpts fun _ => .bind (.invoke _ _ (hcall _ rfl)) fun _ => .modifyOpts _

/-! ## `complete`, then `validate` -/

/-- **What the join command persists.** After `complete` and `validate`, the serialized config is the insecure
bootstrap config with verification on, the pinned CA, and as server the string the forced lookup returned,
error or not, else the hub's address. The preflight saw the hub's address. -/
theorem complete_validate_eq_ok {env : Env} {w w₁ w₂ : World} {u v : Unit}
    (hc : complete env w = .ok u w₁) (hv : validate env w₁ = .ok v w₂) :
    ∃ ca, PinnedCA env w.opts ca ∧
      (w.opts.forceHubInClusterEndpointLookup →
        fatalLookupError (env.getAPIServer (hubClient w.opts)).2 = none) ∧
      env.runChecks (some (pinnedConfig w.opts w.opts.hubAPIServer ca)) = .ok () ∧
      let cfg := pinnedConfig w.opts (if w.opts.forceHubInClusterEndpointLookup
        then (env.getAPIServer (hubClient w.opts)).1 else w.opts.hubAPIServer) ca
      w₂.opts.hubConfig = some cfg ∧
      env.marshal (some cfg) = .ok w₂.opts.values.hub.kubeConfig ∧
      w₂.log = w.log ++ completeCalls w.opts ++
        [.runChecks (some (pinnedConfig w.opts w.opts.hubAPIServer ca)), .marshal (some cfg)] := by
  obtain ⟨ca, hpin, hlook, hcfg, hend, hframe, hlog, -⟩ := complete_eq_ok hc
  have hforce := congrArg Options.forceHubInClusterEndpointLookup hframe
  obtain ⟨hchk, hm, hcfg₂, -, -, hlog₂⟩ := validate_pinned_eq_ok hcfg hv
  refine ⟨ca, hpin, hlook, hchk, ?_⟩
  by_cases hf : w.opts.forceHubInClusterEndpointLookup <;> simp_all

/-- **The persisted credential is CA-pinned.** After `complete` and `validate`, the config serialized into
`values.Hub.KubeConfig` has one cluster, with verification on, and the caller's token; its CA data are the
bytes of `--ca-file` when the flag is set, and `GetCACert` is then never called; otherwise they are what
`GetCACert` returned over the insecure client. The insecure config is not the one serialized. -/
theorem serialized_hub_config_is_pinned {env : Env} {w w₁ w₂ : World} {u v : Unit}
    (hCA : w.opts.hubCADate = none) (hc : complete env w = .ok u w₁) (hv : validate env w₁ = .ok v w₂) :
    ∃ cfg server ca, w₂.opts.hubConfig = some cfg ∧
      env.marshal (some cfg) = .ok w₂.opts.values.hub.kubeConfig ∧
      cfg.clusters = [{ name := "hub", cluster := { server, insecureSkipTLSVerify := false,
                                                    certificateAuthorityData := ca } }] ∧
      cfg.authInfos = [{ name := "bootstrap", authInfo := { token := w.opts.token } }] ∧
      (w.opts.caFile ≠ "" → env.readFile w.opts.caFile = .ok ca ∧
        ∃ calls, w₂.log = w.log ++ calls ∧ ∀ client, Call.getCACert client ∉ calls) ∧
      (w.opts.caFile = "" →
        env.getCACert (.ofKubeconfig (createExternalBootstrapConfig w.opts)) = .ok ca) ∧
      cfg ≠ createExternalBootstrapConfig w.opts := by
  obtain ⟨ca, hpin, -, -, hcfg, hm, hlog⟩ := complete_validate_eq_ok hc hv
  refine ⟨_, _, ca, hcfg, hm, rfl, rfl, fun hf => ⟨?_, _, hlog.trans (List.append_assoc _ _ _), ?_⟩,
    fun hf => ?_, ?_⟩
  · simpa [PinnedCA, hf] using hpin
  · simp [completeCalls, hf]
  · simpa [PinnedCA, hf, hCA] using hpin
  · simp [pinnedConfig, createExternalBootstrapConfig]

theorem serialized_hub_config_is_pinned_sample :
    let w : World := ⟨sampleJoin, "", []⟩
    let w₁ := (complete hubWithoutClusterInfo w).state
    let w₂ := (validate hubWithoutClusterInfo w₁).state
    (w.opts.hubCADate = none ∧ complete hubWithoutClusterInfo w = .ok () w₁ ∧
      validate hubWithoutClusterInfo w₁ = .ok () w₂) ∧
    ∃ cfg server ca, w₂.opts.hubConfig = some cfg ∧
      hubWithoutClusterInfo.marshal (some cfg) = .ok w₂.opts.values.hub.kubeConfig ∧
      cfg.clusters = [{ name := "hub", cluster := { server, insecureSkipTLSVerify := false,
                                                    certificateAuthorityData := ca } }] ∧
      cfg.authInfos = [{ name := "bootstrap", authInfo := { token := w.opts.token } }] ∧
      (w.opts.caFile ≠ "" → hubWithoutClusterInfo.readFile w.opts.caFile = .ok ca ∧
        ∃ calls, w₂.log = w.log ++ calls ∧ ∀ client, Call.getCACert client ∉ calls) ∧
      (w.opts.caFile = "" →
        hubWithoutClusterInfo.getCACert (.ofKubeconfig (createExternalBootstrapConfig w.opts)) = .ok ca) ∧
      cfg ≠ createExternalBootstrapConfig w.opts :=
  ⟨⟨rfl, rfl, rfl⟩, serialized_hub_config_is_pinned rfl rfl rfl⟩

/-- With `--force-internal-endpoint-lookup` on a hub without `cluster-info`, `complete` tolerates the
`NotFound` lookup and `validate` passes, yet the serialized config's server is the empty string the lookup
returned, not the hub's address: the last call is the `Marshal` of a config with that server, and its
output is what `values.Hub.KubeConfig` holds. -/
theorem not_found_lookup_persists_empty_server :
    let w : World := ⟨{ sampleJoin with forceHubInClusterEndpointLookup := true }, "", []⟩
    let w₁ := (complete hubWithoutClusterInfo w).state
    let w₂ := (validate hubWithoutClusterInfo w₁).state
    complete hubWithoutClusterInfo w = .ok () w₁ ∧ validate hubWithoutClusterInfo w₁ = .ok () w₂ ∧
      w.opts.hubAPIServer = "https://hub.example:6443" ∧
      (w₂.opts.hubConfig.map fun cfg => cfg.clusters.map (·.cluster.server)) = some [""] ∧
      ∃ cfg, w₂.log.getLast? = some (.marshal (some cfg)) ∧
        hubWithoutClusterInfo.marshal (some cfg) = .ok w₂.opts.values.hub.kubeConfig ∧
        cfg.clusters.map (·.cluster.server) = [""] :=
  ⟨rfl, rfl, rfl, rfl, _, rfl, rfl, rfl⟩

end Clusteradm.Join
