import Clusteradm.Join.Run
import Clusteradm.Join.Escalate

/-!
# The join command

`join` runs `complete`, `validate`, then `run`, each ending the command on its error. The results here are
over every run of the command, successful or not, and every outcome of every call. The safety result is
`join_applies_only_escalated_values`: every manifest the command ever applies carries template values that a
successful `complete` and `validate` produced, whose hub kubeconfig serializes the credential the design's
`escalate` returns. It is assembled from one lemma per step: `complete_calls` and `validate_appends` (they
apply nothing), `run_appends` (it applies the receiver's values), and `complete_validate_values` (what the
first two leave in the receiver). A successful join applied that credential, and no run panics.
-/

namespace Clusteradm.Join

/-- Modelled from the spec (the command's entry point is outside this source): `complete`, `validate`, then
`run`, each ending the command on its error. -/
def join (env : Env) : JoinM Unit := do
  complete env
  validate env
  run env

/-! ## What reaches the cluster -/

/-- The template values `complete` and `validate` hand `run`, described from the flags and the hub's answers
alone. -/
structure EscalatedValues (env : Env) (o : Options) (v : Values) : Prop where
  /-- The values `complete` computed from the flags and the version bundle, but for the hub kubeconfig. -/
  rendered : ∃ vb, env.getVersionBundle o.bundleVersion = .ok vb ∧
    v = { completeValues env o vb with hub := { apiServer := o.hubAPIServer, kubeConfig := v.hub.kubeConfig } }
  /-- The hub kubeconfig serializes the credential the design's `escalate` returns, but for the server a
  `NotFound` lookup returned. -/
  escalated : ∃ (sc : SecureCredential) (cfg : Config),
    escalate (insecureHub env o) (insecureCredential o) o.hubAPIServer (operatorCA env o)
      o.forceHubInClusterEndpointLookup = .ok sc ∧
    env.marshal (some cfg) = .ok v.hub.kubeConfig ∧
    credentialOf cfg = some (if lookupNotFound env o
      then { sc.val with serverAddress := (env.getAPIServer (hubClient o)).1 } else sc.val)

/-- After `complete` and `validate`, the receiver keeps its dry-run flag and holds escalated values. -/
theorem complete_validate_values {env : Env} {w w₁ w₂ : World} {u v : Unit}
    (hc : complete env w = .ok u w₁) (hv : validate env w₁ = .ok v w₂) :
    w₂.opts.dryRun = w.opts.dryRun ∧ EscalatedValues env w.opts w₂.opts.values := by
  obtain ⟨ca₁, -, -, hcfg, -, hframe₁, -, vb, hvb, hvals₁⟩ := complete_eq_ok hc
  obtain ⟨-, -, -, hframe₂, hvals₂, -⟩ := validate_pinned_eq_ok hcfg hv
  obtain ⟨ca, hpin, hlook, -, -, hm, -⟩ := complete_validate_eq_ok hc hv
  obtain ⟨sc, he, hcred⟩ := escalate_refined_by_pinnedConfig hpin hlook
  refine ⟨(congrArg Options.dryRun hframe₂ :).trans (congrArg Options.dryRun hframe₁ :),
    ⟨vb, hvb, ?_⟩, sc, _, he, hm, hcred⟩
  rw [hvals₁] at hvals₂
  rcases h : w₂.opts.values with ⟨clusterName, ⟨apiServer, kubeConfig⟩, klusterlet, registry, bundleVersion⟩
  simp only [h, completeValues, Values.mk.injEq, Hub.mk.injEq] at hvals₂ ⊢
  simp only [hvals₂, and_self]

/-- **Only the escalated credential reaches the cluster.** On every run of the join command, whatever each
call returns and wherever the run stops, a call that applies manifests applies the values a successful
`complete` and `validate` left, so that nothing is applied unless both succeeded. It applies them with the
dry-run flag as given, and they are the values `complete` computed from the flags, with a hub kubeconfig that
serializes the credential the design's `escalate` returns (its server the string a `NotFound` lookup
returned, where the code and the design part). -/
theorem join_applies_only_escalated_values (env : Env) (w : World) :
    ∃ calls, (join env w).state.log = w.log ++ calls ∧
      ∀ c ∈ calls, ∀ a ∈ c.applied,
        (∃ w₁ w₂, complete env w = .ok () w₁ ∧ validate env w₁ = .ok () w₂ ∧
          a = (w₂.opts.values, w₂.opts.dryRun)) ∧
        a.2 = w.opts.dryRun ∧ EscalatedValues env w.opts a.1 := by
  let Q : Call → Prop := fun c => ∀ a ∈ c.applied,
    (∃ w₁ w₂, complete env w = .ok () w₁ ∧ validate env w₁ = .ok () w₂ ∧
      a = (w₂.opts.values, w₂.opts.dryRun)) ∧
    a.2 = w.opts.dryRun ∧ EscalatedValues env w.opts a.1
  have hnone : ∀ c : Call, c.applied = none → (everyCall Q).holds [c] := fun c hc =>
    everyCall_singleton.mpr fun a ha => by rw [hc] at ha; cases ha
  show AppendsFrom (everyCall Q) (join env) w
  refine ((complete_calls env w).mono fun _ h c hc => ?_).bind fun _ w₁ hc =>
    (validate_appends _ env hnone w₁).bind fun _ w₂ hv => ?_
  · exact everyCall_singleton.mp (hnone c (completeCalls_applied (h c hc)))
  obtain ⟨hd, hvals⟩ := complete_validate_values hc hv
  refine run_appends _ env w₂ (fun c _ ha => ?_) ((waitForRollout_calls env w₂.opts).mono ?_)
  · rcases ha with ha | ha
    · exact hnone c ha
    · refine everyCall_singleton.mpr fun a h => ?_
      rw [ha, Option.mem_def, Option.some.injEq] at h
      subst h
      exact ⟨⟨w₁, w₂, hc, hv, rfl⟩, hd, hvals⟩
  · intro calls h c hc a ha
    rw [Call.applied_eq_none (h c hc)] at ha
    cases ha

/-! ## A successful join -/

/-- **The manifests carry the pinned credential.** In a successful join, the join manifests were applied with
template values whose hub kubeconfig serializes a config whose credential carries the caller's token, with
verification on against the CA `complete` pinned. -/
theorem join_applies_pinned_kubeconfig {env : Env} {w w' : World} {u : Unit} (h : join env w = .ok u w') :
    ∃ cfg server ca values dryRun, PinnedCA env w.opts ca ∧
      credentialOf cfg = some { serverAddress := server, bearerToken := w.opts.token,
                                caCertificate := some ca, tlsVerify := true } ∧
      env.marshal (some cfg) = .ok values.hub.kubeConfig ∧
      Call.applyDirectly values dryRun joinFiles ∈ w'.log := by
  simp only [join, EStateM.bind_eq_ok] at h
  obtain ⟨_, w₁, hc, _, w₂, hv, hr⟩ := h
  obtain ⟨ca, hpin, -, -, hcfg, hm, -⟩ := complete_validate_eq_ok hc hv
  obtain ⟨out₁, out₂, out₃, -, -, -, -, -, hlog⟩ := run_eq_ok hr
  exact ⟨_, _, ca, w₂.opts.values, w₂.opts.dryRun, hpin, credentialOf_pinnedConfig _ _ _, hm,
    by simp [hlog, runCalls, manifestCalls]⟩

theorem join_applies_pinned_kubeconfig_sample :
    let w : World := ⟨sampleJoin, "", []⟩
    join hubWithoutClusterInfo w = .ok () (join hubWithoutClusterInfo w).state ∧
    ∃ cfg server ca values dryRun, PinnedCA hubWithoutClusterInfo w.opts ca ∧
      credentialOf cfg = some { serverAddress := server, bearerToken := w.opts.token,
                                caCertificate := some ca, tlsVerify := true } ∧
      hubWithoutClusterInfo.marshal (some cfg) = .ok values.hub.kubeConfig ∧
      Call.applyDirectly values dryRun joinFiles ∈ (join hubWithoutClusterInfo w).state.log :=
  ⟨rfl, join_applies_pinned_kubeconfig rfl⟩

/-! ## No run panics -/

/-- **The join command never panics.** Whatever the flags and whatever each external call returns, `join`
ends in success or in a Go error: the writes to `Clusters[0]` that could index an empty list, and the write
through `HubConfig` that could dereference nil, never do. -/
theorem join_never_panics (env : Env) : NeverPanics (join env) := fun w =>
  (complete_neverPanics env w).bind fun _ w₁ hc => by
    obtain ⟨ca, -, -, hcfg, -⟩ := complete_eq_ok hc
    exact (validate_noPanic_of_pinned env hcfg).bind fun _ w₂ _ => run_neverPanics env w₂

end Clusteradm.Join
