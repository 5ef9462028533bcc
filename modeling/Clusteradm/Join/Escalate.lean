import Clusteradm.Join.Validate

/-!
# The trust escalator, as designed

The design describes the join command's trust upgrade as one function, `escalate`, from the insecure bootstrap
credential to a secure one: resolve the in-cluster address when asked (a `NotFound` answer leaves it unset,
any other error is fatal), take the operator's CA or else fetch the hub's over the insecure channel, and only
then turn verification on, with the in-cluster address, if any, as server. This module states that function
over the hub's answers, reads a credential out of a kubeconfig, and proves that the kubeconfig `complete` and
`validate` serialize carries the credential `escalate` returns, but for one case: when a forced lookup is
answered `NotFound`, the code keeps the string the lookup returned as server, where the design keeps the
hub's address. When `escalate` fails, `complete` fails.
-/

namespace Clusteradm.Join

/-! ## The design -/

/-- The design's `BootstrapCredential`. -/
structure BootstrapCredential where
  serverAddress : String
  bearerToken : String
  caCertificate : Option Bytes
  tlsVerify : Bool
deriving DecidableEq, Repr

/-- A credential that verifies the hub against explicit CA data: the only kind `escalate` returns. -/
abbrev SecureCredential := { c : BootstrapCredential // c.tlsVerify = true ∧ c.caCertificate.isSome = true }

/-- What the hub answers over the insecure channel: its in-cluster address, and its CA data. -/
structure InsecureHub where
  internalAddress : Except GoError String
  caCertificate : Except GoError Bytes

/-- Step 1: the in-cluster address, when the lookup is forced; `NotFound` leaves it unset. -/
def resolveInternal (hub : InsecureHub) (forceInternalLookup : Bool) : Except GoError (Option String) :=
  if forceInternalLookup then
    match hub.internalAddress with
    | .ok a => .ok (some a)
    | .error e => if e.isNotFound then .ok none else .error e
  else .ok none

/-- Step 3: the operator's CA verbatim, else the hub's. -/
def resolveCA (hub : InsecureHub) (explicitCA : Option Bytes) : Except GoError Bytes :=
  match explicitCA with
  | some ca => .ok ca
  | none => hub.caCertificate

/-- The design's `escalate`: steps 1 and 3 first, then the secure copy (step 2) whose server is the
in-cluster address when one was resolved (step 4). -/
def escalate (hub : InsecureHub) (insecure : BootstrapCredential) (hubAddress : String)
    (explicitCA : Option Bytes) (forceInternalLookup : Bool) : Except GoError SecureCredential := do
  let internal ← resolveInternal hub forceInternalLookup
  let ca ← resolveCA hub explicitCA
  pure ⟨{ insecure with serverAddress := internal.getD hubAddress, caCertificate := some ca,
                        tlsVerify := true }, rfl, rfl⟩

/-! ## The code, read at the design's level -/

/-- The credential a kubeconfig gives its current context: the server and CA data of the context's cluster,
the token of its user. With verification off the CA data are ignored. -/
def credentialOf (cfg : Config) : Option BootstrapCredential := do
  let ctx ← cfg.contexts.find? (·.name == cfg.currentContext)
  let c ← cfg.clusters.find? (·.name == ctx.context.cluster)
  let a ← cfg.authInfos.find? (·.name == ctx.context.authInfo)
  pure { serverAddress := c.cluster.server, bearerToken := a.authInfo.token,
         caCertificate :=
           if c.cluster.insecureSkipTLSVerify then none else some c.cluster.certificateAuthorityData,
         tlsVerify := !c.cluster.insecureSkipTLSVerify }

/-- The insecure credential the join command starts from. -/
def insecureCredential (o : Options) : BootstrapCredential :=
  { serverAddress := o.hubAPIServer, bearerToken := o.token, caCertificate := none, tlsVerify := false }

/-- The hub as the code's insecure client sees it. `GetAPIServer`'s string is dropped beside an error. -/
def insecureHub (env : Env) (o : Options) : InsecureHub where
  internalAddress := match env.getAPIServer (hubClient o) with
    | (a, none) => .ok a
    | (_, some e) => .error e
  caCertificate := env.getCACert (hubClient o)

/-- The CA data the operator supplied: the bytes of `--ca-file`, else a preset `HubCADate`. -/
def operatorCA (env : Env) (o : Options) : Option Bytes :=
  if o.caFile ≠ "" then (env.readFile o.caFile).toOption else o.hubCADate

/-- The forced lookup was answered `NotFound`: the case where the code and the design part. -/
def lookupNotFound (env : Env) (o : Options) : Bool :=
  o.forceHubInClusterEndpointLookup &&
    match (env.getAPIServer (hubClient o)).2 with
    | some e => e.isNotFound
    | none => false

theorem credentialOf_pinnedConfig (o : Options) (server : String) (ca : Bytes) :
    credentialOf (pinnedConfig o server ca) =
      some { serverAddress := server, bearerToken := o.token, caCertificate := some ca,
             tlsVerify := true } := by
  simp [credentialOf, pinnedConfig, createExternalBootstrapConfig]

/-- The CA `complete` pins is the one the design resolves. -/
theorem resolveCA_of_pinned {env : Env} {o : Options} {ca : Bytes} (h : PinnedCA env o ca) :
    resolveCA (insecureHub env o) (operatorCA env o) = .ok ca := by
  unfold PinnedCA at h
  unfold operatorCA
  split at h
  · simp [*, resolveCA, Except.toOption]
  · next hf =>
      rw [if_neg hf]
      cases hb : o.hubCADate <;> simp_all [resolveCA, insecureHub]

/-- A lookup `complete` tolerated resolves, in the design, to the string returned when there was no error,
and to no address otherwise. -/
theorem resolveInternal_of_tolerated {env : Env} {o : Options}
    (h : o.forceHubInClusterEndpointLookup → fatalLookupError (env.getAPIServer (hubClient o)).2 = none) :
    resolveInternal (insecureHub env o) o.forceHubInClusterEndpointLookup =
      .ok (if o.forceHubInClusterEndpointLookup ∧ (env.getAPIServer (hubClient o)).2 = none
        then some (env.getAPIServer (hubClient o)).1 else none) := by
  unfold resolveInternal insecureHub
  cases hf : o.forceHubInClusterEndpointLookup
  · rfl
  · rcases hl : env.getAPIServer (hubClient o) with ⟨a, _ | e⟩
    · rfl
    · simp_all [fatalLookupError]

/-! ## Refinement -/

/-- The refinement on one receiver: with the CA `complete` pins and a lookup it tolerated, `escalate`
succeeds, and the config `validate` serializes carries its credential, but for the server a `NotFound`
lookup returned. -/
theorem escalate_refined_by_pinnedConfig {env : Env} {o : Options} {ca : Bytes} (hpin : PinnedCA env o ca)
    (hlook : o.forceHubInClusterEndpointLookup → fatalLookupError (env.getAPIServer (hubClient o)).2 = none) :
    ∃ sc : SecureCredential,
      escalate (insecureHub env o) (insecureCredential o) o.hubAPIServer (operatorCA env o)
        o.forceHubInClusterEndpointLookup = .ok sc ∧
      credentialOf (pinnedConfig o (if o.forceHubInClusterEndpointLookup
          then (env.getAPIServer (hubClient o)).1 else o.hubAPIServer) ca) =
        some (if lookupNotFound env o
          then { sc.val with serverAddress := (env.getAPIServer (hubClient o)).1 } else sc.val) := by
  refine ⟨_, by rw [escalate, resolveInternal_of_tolerated hlook, resolveCA_of_pinned hpin]; rfl, ?_⟩
  rw [credentialOf_pinnedConfig]
  unfold lookupNotFound
  rcases hl : env.getAPIServer (hubClient o) with ⟨a, _ | e⟩ <;>
    cases hf : o.forceHubInClusterEndpointLookup <;> simp_all [insecureCredential, fatalLookupError]

/-- **`complete` and `validate` refine `escalate`.** When both succeed, `escalate` succeeds on the same hub
answers, and the kubeconfig serialized into `values.Hub.KubeConfig` is that of a config, the hub config
left in the receiver, that carries its credential, verification on and CA pinned, except when the forced
lookup was answered `NotFound`: the server is then the string `GetAPIServer` returned beside the error, not
the hub's address the design keeps. -/
theorem complete_validate_refines_escalate {env : Env} {w w₁ w₂ : World} {u v : Unit}
    (hc : complete env w = .ok u w₁) (hv : validate env w₁ = .ok v w₂) :
    ∃ (sc : SecureCredential) (cfg : Config),
      escalate (insecureHub env w.opts) (insecureCredential w.opts) w.opts.hubAPIServer
        (operatorCA env w.opts) w.opts.forceHubInClusterEndpointLookup = .ok sc ∧
      w₂.opts.hubConfig = some cfg ∧ env.marshal (some cfg) = .ok w₂.opts.values.hub.kubeConfig ∧
      credentialOf cfg = some (if lookupNotFound env w.opts
        then { sc.val with serverAddress := (env.getAPIServer (hubClient w.opts)).1 } else sc.val) := by
  obtain ⟨ca, hpin, hlook, -, hcfg, hm, -⟩ := complete_validate_eq_ok hc hv
  obtain ⟨sc, he, hcred⟩ := escalate_refined_by_pinnedConfig hpin hlook
  exact ⟨sc, _, he, hcfg, hm, hcred⟩

/-- At the sample hub with the lookup forced, the two part: the design keeps the hub's address. -/
theorem complete_validate_refines_escalate_sample :
    let w : World := ⟨{ sampleJoin with forceHubInClusterEndpointLookup := true }, "", []⟩
    let w₁ := (complete hubWithoutClusterInfo w).state
    let w₂ := (validate hubWithoutClusterInfo w₁).state
    (complete hubWithoutClusterInfo w = .ok () w₁ ∧ validate hubWithoutClusterInfo w₁ = .ok () w₂) ∧
    ∃ (sc : SecureCredential) (cfg : Config),
      escalate (insecureHub hubWithoutClusterInfo w.opts) (insecureCredential w.opts) w.opts.hubAPIServer
        (operatorCA hubWithoutClusterInfo w.opts) w.opts.forceHubInClusterEndpointLookup = .ok sc ∧
      w₂.opts.hubConfig = some cfg ∧ hubWithoutClusterInfo.marshal (some cfg) = .ok w₂.opts.values.hub.kubeConfig ∧
      credentialOf cfg = some (if lookupNotFound hubWithoutClusterInfo w.opts
        then { sc.val with serverAddress := (hubWithoutClusterInfo.getAPIServer (hubClient w.opts)).1 }
        else sc.val) :=
  ⟨⟨rfl, rfl⟩, complete_validate_refines_escalate rfl rfl⟩

/-- **No credential the design refuses is built.** When `escalate` fails (a forced lookup failing otherwise
than `NotFound`, or no CA to be had), `complete` fails, so nothing is pinned or serialized. -/
theorem complete_fails_of_escalate_fails {env : Env} {w : World} {e : GoError}
    (he : escalate (insecureHub env w.opts) (insecureCredential w.opts) w.opts.hubAPIServer
      (operatorCA env w.opts) w.opts.forceHubInClusterEndpointLookup = .error e) (u : Unit) (w' : World) :
    complete env w ≠ .ok u w' := by
  intro hc
  obtain ⟨ca, hpin, hlook, -⟩ := complete_eq_ok hc
  rw [escalate, resolveInternal_of_tolerated hlook, resolveCA_of_pinned hpin] at he
  cases he

/-- A hub that refuses the insecure client its CA. -/
def hubRefusingCA : Env :=
  { hubWithoutClusterInfo with
    getCACert := fun _ => .error (.status "Forbidden" "configmaps kube-root-ca.crt is forbidden") }

/-- At a hub that refuses its CA, `complete` ends in an error: it does not succeed in the world it leaves. -/
theorem complete_fails_of_escalate_fails_sample :
    let w : World := ⟨sampleJoin, "", []⟩
    escalate (insecureHub hubRefusingCA w.opts) (insecureCredential w.opts) w.opts.hubAPIServer
        (operatorCA hubRefusingCA w.opts) w.opts.forceHubInClusterEndpointLookup =
      .error (.status "Forbidden" "configmaps kube-root-ca.crt is forbidden") ∧
    ∃ e, complete hubRefusingCA w = .error e (complete hubRefusingCA w).state :=
  ⟨rfl, EStateM.Result.eq_error_of_ne_ok
    (@complete_fails_of_escalate_fails hubRefusingCA ⟨sampleJoin, "", []⟩ _ rfl () _)⟩

end Clusteradm.Join
