import Clusteradm.Join.Wait

/-!
# `run`: apply the manifests, then wait

`run` applies the join manifests, waits for the klusterlet CRD unless it is a dry run, applies the klusterlet
resource (`applyManifests`), and, only when `--wait` is set and it is not a dry run, calls the two readiness
waiters in sequence, each with the whole timeout (`waitForRollout`). The theorems here are over every run and every outcome of every call:
a property of the calls a step appends that is closed under sequencing (`CallsInvariant`) is carried from
each step to the whole of `run` by `run_appends`, where the second wait may rely on the first having
succeeded: the klusterlet agent's pods are watched only once the registration operator is ready, and the
hint to accept the cluster is printed only once everything before it succeeded.
-/

namespace Clusteradm.Join

/-! ## Definitions -/

/-- The manifests `run` applies first, in order. -/
def joinFiles : List String :=
  ["join/namespace_agent.yaml", "join/namespace.yaml", "join/bootstrap_hub_kubeconfig.yaml",
   "join/cluster_role.yaml", "join/cluster_role_binding.yaml", "join/klusterlets.crd.yaml",
   "join/service_account.yaml"]

/-- The CRD `run` waits for. -/
def klusterletsCRD : String := "klusterlets.operator.open-cluster-management.io"

/-- `if !o.ClusteradmFlags.DryRun { if err := wait.WaitUntilCRDReady(...); err != nil { return err } }`. -/
def waitForKlusterletsCRD (env : Env) (o : Options) : JoinM Unit :=
  if !o.dryRun then
    invoke (.waitUntilCRDReady klusterletsCRD o.wait) (env.waitUntilCRDReady klusterletsCRD o.wait)
  else pure ()

/-- `if o.wait && !o.ClusteradmFlags.DryRun { err = waiter(...); if err != nil { return err } }`. -/
def whenWaiting (o : Options) (waiter : JoinM Unit) : JoinM Unit :=
  if o.wait && !o.dryRun then waiter else pure ()

/-- The manifests, applied in order with the wait for the klusterlet CRD between them: lines 173-215 of
`run`. It returns the output of the three applies, concatenated. -/
def applyManifests (env : Env) (o : Options) : JoinM (List String) := do
  let output : List String := []
  invoke .getClients env.getClients
  let out ← invoke (.applyDirectly o.values o.dryRun joinFiles)
    (env.applyDirectly o.values o.dryRun joinFiles)
  let output := output ++ out
  let out ← invoke (.applyDeployments o.values o.dryRun "join/operator.yaml")
    (env.applyDeployments o.values o.dryRun "join/operator.yaml")
  let output := output ++ out
  waitForKlusterletsCRD env o
  let out ← invoke (.applyCustomResources o.values o.dryRun "join/klusterlets.cr.yaml")
    (env.applyCustomResources o.values o.dryRun "join/klusterlets.cr.yaml")
  return output ++ out

/-- The two readiness waits, one after the other: lines 217-229 of `run`. -/
def waitForRollout (env : Env) (o : Options) : JoinM Unit := do
  whenWaiting o (waitUntilRegistrationOperatorConditionIsTrue env o.timeout)
  whenWaiting o (waitUntilKlusterletConditionIsTrue env o.timeout)

/-- `run`. -/
def run (env : Env) : JoinM Unit := do
  let o ← getOpts
  let output ← applyManifests env o
  waitForRollout env o
  modify (World.record (.printAcceptCommand o.values.clusterName))
  invoke (.writeOutput o.outputFile output) (env.writeOutput o.outputFile output)

/-! ## The waiters -/

/-- The calls a readiness wait on `pw`'s pods makes when it succeeds: the spinner and the watch, each
stopped. -/
def waitCalls (title final : String) (pw : PodWatch) : List Call :=
  [.spinnerStart title final, .watch pw.request, .watchStop, .spinnerStop]

/-- The calls the registration operator's waiter makes when it succeeds. -/
def registrationOperatorCalls (env : Env) (timeout : Int) : List Call :=
  .toRESTConfig :: .newForConfig :: waitCalls "Waiting for registration operator to become ready..."
    "Registration operator is now available.\n" (registrationOperatorWatch env timeout)

/-- The calls the klusterlet agent's waiter makes when it succeeds. -/
def klusterletCalls (env : Env) (timeout : Int) : List Call :=
  .kubernetesClientSet :: waitCalls "Waiting for klusterlet agent to become ready..."
    "Klusterlet is now available.\n" (klusterletWatch env timeout)

theorem waitWithSpinner_eq_ok {env : Env} {title final : String} {pw : PodWatch}
    (hpw : pw.assertEvent = podReady env.getSpinnerPodStatus) {w w' : World} {u : Unit}
    (h : waitWithSpinner env title final pw w = .ok u w') :
    (∃ items, env.watch pw.request = .ok items ∧ watchOutcome items = .ok ()) ∧
      w'.opts = w.opts ∧ w'.log = w.log ++ waitCalls title final pw := by
  obtain ⟨phase, hr⟩ := waitWithSpinner_podReady env title final pw hpw w
  rw [hr] at h
  split at h
  · cases h
  · next items hw =>
      obtain ⟨ho, rfl⟩ := resultOf_eq_ok.mp h
      exact ⟨⟨items, hw, ho⟩, rfl, rfl⟩

theorem waitUntilRegistrationOperatorConditionIsTrue_eq_ok {env : Env} {timeout : Int} {w w' : World}
    {u : Unit} (h : waitUntilRegistrationOperatorConditionIsTrue env timeout w = .ok u w') :
    env.toRESTConfig = .ok () ∧ env.newForConfig = .ok () ∧
      (∃ items, env.watch (registrationOperatorWatch env timeout).request = .ok items ∧
        watchOutcome items = .ok ()) ∧
      w'.opts = w.opts ∧ w'.log = w.log ++ registrationOperatorCalls env timeout := by
  simp only [waitUntilRegistrationOperatorConditionIsTrue, EStateM.bind_eq_ok, invoke_eq_ok] at h
  obtain ⟨_, _, ⟨h₁, rfl⟩, _, _, ⟨h₂, rfl⟩, h⟩ := h
  obtain ⟨hw, ho, hl⟩ := waitWithSpinner_eq_ok rfl h
  exact ⟨h₁, h₂, hw, ho, by simp [hl, registrationOperatorCalls]⟩

theorem waitUntilKlusterletConditionIsTrue_eq_ok {env : Env} {timeout : Int} {w w' : World}
    {u : Unit} (h : waitUntilKlusterletConditionIsTrue env timeout w = .ok u w') :
    env.kubernetesClientSet = .ok () ∧
      (∃ items, env.watch (klusterletWatch env timeout).request = .ok items ∧
        watchOutcome items = .ok ()) ∧
      w'.opts = w.opts ∧ w'.log = w.log ++ klusterletCalls env timeout := by
  simp only [waitUntilKlusterletConditionIsTrue, EStateM.bind_eq_ok, invoke_eq_ok] at h
  obtain ⟨_, _, ⟨h₁, rfl⟩, h⟩ := h
  obtain ⟨hw, ho, hl⟩ := waitWithSpinner_eq_ok rfl h
  exact ⟨h₁, hw, ho, by simp [hl, klusterletCalls]⟩

/-- On every exit a waiter appends the calls of its success, or, when its watch could not be opened, the
spinner around the failed watch. -/
theorem waitWithSpinner_appends (I : CallsInvariant) (env : Env) (title final : String) (pw : PodWatch)
    (hpw : pw.assertEvent = podReady env.getSpinnerPodStatus)
    (hfail : I.holds [.spinnerStart title final, .watch pw.request, .spinnerStop])
    (hok : I.holds (waitCalls title final pw)) : Appends I (waitWithSpinner env title final pw) := by
  intro w
  obtain ⟨phase, h⟩ := waitWithSpinner_podReady env title final pw hpw w
  rw [AppendsFrom, h]
  split
  · exact ⟨_, rfl, hfail⟩
  · refine ⟨waitCalls title final pw, ?_, hok⟩
    cases watchOutcome _ <;> rfl

/-- On every exit, the registration operator's waiter has made only calls of its success. -/
theorem waitUntilRegistrationOperatorConditionIsTrue_calls (env : Env) (timeout : Int) :
    Appends (everyCall (· ∈ registrationOperatorCalls env timeout))
      (waitUntilRegistrationOperatorConditionIsTrue env timeout) :=
  .bind (.invoke _ _ (by simp [registrationOperatorCalls])) fun _ =>
    .bind (.invoke _ _ (by simp [registrationOperatorCalls])) fun _ =>
      waitWithSpinner_appends _ env _ _ _ rfl (by simp [registrationOperatorCalls, waitCalls])
        (by simp [registrationOperatorCalls, waitCalls])

/-- On every exit, the klusterlet agent's waiter has made only calls of its success. -/
theorem waitUntilKlusterletConditionIsTrue_calls (env : Env) (timeout : Int) :
    Appends (everyCall (· ∈ klusterletCalls env timeout)) (waitUntilKlusterletConditionIsTrue env timeout) :=
  .bind (.invoke _ _ (by simp [klusterletCalls])) fun _ =>
    waitWithSpinner_appends _ env _ _ _ rfl (by simp [klusterletCalls, waitCalls])
      (by simp [klusterletCalls, waitCalls])

/-! ## Runs of `run` -/

/-- A call only a readiness waiter makes within `run`: building its client, its spinner, its watch. -/
def Call.ofWaiter : Call → Bool
  | .toRESTConfig | .newForConfig | .kubernetesClientSet | .spinnerStart .. | .spinnerStop | .watch _
  | .watchStop => true
  | _ => false

/-- What a call does to the spinner: shows it (`true`), stops it (`false`), or nothing. -/
def Call.spinnerEdge : Call → Option Bool
  | .spinnerStart .. => some true
  | .spinnerStop => some false
  | _ => none

theorem Call.spinnerEdge_eq_none {c : Call} (h : c.ofWaiter = false) : c.spinnerEdge = none := by
  cases c <;> first | rfl | cases h

theorem Call.applied_eq_none {c : Call} (h : c.ofWaiter = true) : c.applied = none := by
  cases c <;> first | rfl | cases h

/-- Every spinner shown is stopped before the next one is shown. -/
def spinnersStopped : CallsInvariant where
  holds calls := ∃ n, calls.filterMap Call.spinnerEdge = (List.replicate n [true, false]).flatten
  nil := ⟨0, rfl⟩
  append _ _ := by
    rintro ⟨n, ha⟩ ⟨m, hb⟩
    exact ⟨n + m, by
      rw [List.filterMap_append, ha, hb, ← List.flatten_append, List.append_replicate_replicate]⟩

/-- The calls `applyManifests` makes from receiver `o` when it succeeds, in order. -/
def manifestCalls (o : Options) : List Call :=
  [.getClients, .applyDirectly o.values o.dryRun joinFiles,
   .applyDeployments o.values o.dryRun "join/operator.yaml"] ++
  (if o.dryRun then [] else [.waitUntilCRDReady klusterletsCRD o.wait]) ++
  [.applyCustomResources o.values o.dryRun "join/klusterlets.cr.yaml"]

/-- On every exit, `applyManifests` has made only calls of its success: no waiter's, and none applying other
values than the receiver's. -/
theorem applyManifests_calls (env : Env) (o : Options) :
    Appends (everyCall (· ∈ manifestCalls o)) (applyManifests env o) := by
  have hcrd : Appends (everyCall (· ∈ manifestCalls o)) (waitForKlusterletsCRD env o) := by
    unfold waitForKlusterletsCRD
    split
    · next hd => exact .invoke _ _ (by simp_all [manifestCalls])
    · exact .pure _
  exact .bind (.invoke _ _ (by simp [manifestCalls])) fun _ =>
    .bind (.invoke _ _ (by simp [manifestCalls])) fun _ => .bind (.invoke _ _ (by simp [manifestCalls])) fun _ =>
      .bind hcrd fun _ => .bind (.invoke _ _ (by simp [manifestCalls])) fun _ => .pure _

theorem manifestCalls_spec {c : Call} {o : Options} (h : c ∈ manifestCalls o) :
    c.ofWaiter = false ∧ (c.applied = none ∨ c.applied = some (o.values, o.dryRun)) := by
  unfold manifestCalls at h
  split at h <;> simp at h <;> rcases h with rfl | rfl | rfl | rfl | rfl <;> simp [Call.ofWaiter, Call.applied]

/-- `run` keeps an invariant of the calls that each call outside the waiters keeps when it applies, if
anything, the receiver's values with its dry-run flag, and that the two waits keep. -/
theorem run_appends (I : CallsInvariant) (env : Env) (w : World)
    (hcall : ∀ c : Call, c.ofWaiter = false →
      c.applied = none ∨ c.applied = some (w.opts.values, w.opts.dryRun) → I.holds [c])
    (hwaits : Appends I (waitForRollout env w.opts)) : AppendsFrom I (run env) w :=
  Appends.getOpts_bind w <|
    .bind ((applyManifests_calls env w.opts).of_everyCall fun _ hc => hcall _ (manifestCalls_spec hc).1
      (manifestCalls_spec hc).2) fun _ =>
    .bind hwaits fun _ => .bind (.record _ (hcall _ rfl (.inl rfl))) fun _ => .invoke _ _ (hcall _ rfl (.inl rfl))

/-- The two waits make only calls of a waiter. -/
theorem waitForRollout_calls (env : Env) (o : Options) :
    Appends (everyCall fun c => c.ofWaiter = true) (waitForRollout env o) := by
  have hreg : ∀ c ∈ registrationOperatorCalls env o.timeout, c.ofWaiter = true := by
    simp [registrationOperatorCalls, waitCalls, Call.ofWaiter]
  have hkl : ∀ c ∈ klusterletCalls env o.timeout, c.ofWaiter = true := by
    simp [klusterletCalls, waitCalls, Call.ofWaiter]
  refine (Appends.ite _ ?_ (.pure _)).bind fun _ => Appends.ite _ ?_ (.pure _)
  · exact (waitUntilRegistrationOperatorConditionIsTrue_calls env _).mono (by intro _ h c hc; exact hreg c (h c hc))
  · exact (waitUntilKlusterletConditionIsTrue_calls env _).mono (by intro _ h c hc; exact hkl c (h c hc))

/-- **No wait without `--wait`, and none in a dry run.** Unless `--wait` is set and it is not a dry run,
`run` builds no waiter's client, shows no spinner and opens no watch, whatever the outcome of each call. -/
theorem run_skips_waiters (env : Env) (w : World) (hw : (w.opts.wait && !w.opts.dryRun) = false) :
    ∃ calls, (run env w).state.log = w.log ++ calls ∧ ∀ c ∈ calls, c.ofWaiter = false := by
  have hskip : ∀ waiter : JoinM Unit,
      Appends (everyCall fun c => c.ofWaiter = false) (whenWaiting w.opts waiter) := by
    intro waiter
    simp only [whenWaiting, hw, Bool.false_eq_true, if_false]
    exact Appends.pure _
  exact run_appends (everyCall fun c => c.ofWaiter = false) env w (fun c hc _ => by simpa using hc)
    ((hskip _).bind fun _ => hskip _)

theorem run_skips_waiters_sample :
    let w : World := ⟨sampleJoin, "", []⟩
    (w.opts.wait && !w.opts.dryRun) = false ∧
      ∃ calls, (run hubWithoutClusterInfo w).state.log = w.log ++ calls ∧ ∀ c ∈ calls, c.ofWaiter = false :=
  ⟨rfl, run_skips_waiters _ _ rfl⟩

/-- **Every spinner is stopped.** On every exit of `run` (success, a failed call, a failed watch, a broken
stream, a timeout) each spinner a waiter showed was stopped, and before the next one was shown. -/
theorem run_stops_every_spinner (env : Env) (w : World) :
    ∃ calls, (run env w).state.log = w.log ++ calls ∧ spinnersStopped.holds calls := by
  have hwait : ∀ title final (pw : PodWatch), pw.assertEvent = podReady env.getSpinnerPodStatus →
      Appends spinnersStopped (waitWithSpinner env title final pw) :=
    fun _ _ _ hpw => waitWithSpinner_appends _ env _ _ _ hpw ⟨1, rfl⟩ ⟨1, rfl⟩
  refine run_appends _ env w (fun c hc _ => ⟨0, by simp [Call.spinnerEdge_eq_none hc]⟩)
    ((Appends.ite _ ?_ (Appends.pure _)).bind fun _ => Appends.ite _ ?_ (Appends.pure _))
  · exact .bind (.invoke _ _ ⟨0, rfl⟩) fun _ => .bind (.invoke _ _ ⟨0, rfl⟩) fun _ => hwait _ _ _ rfl
  · exact .bind (.invoke _ _ ⟨0, rfl⟩) fun _ => hwait _ _ _ rfl

/-- A waiter never panics: every way its watch can end is a Go error or success. -/
theorem waitWithSpinner_neverPanics (env : Env) (title final : String) (pw : PodWatch)
    (hpw : pw.assertEvent = podReady env.getSpinnerPodStatus) :
    NeverPanics (waitWithSpinner env title final pw) := by
  intro w what w'
  obtain ⟨phase, h⟩ := waitWithSpinner_podReady env title final pw hpw w
  rw [h]
  split
  · rintro ⟨⟩
  · cases watchOutcome _ <;> rintro ⟨⟩

/-- `run` never panics. -/
theorem run_neverPanics (env : Env) : NeverPanics (run env) := by
  have hreg : ∀ t, NeverPanics (waitUntilRegistrationOperatorConditionIsTrue env t) := fun _ =>
    .bind (.invoke _ _) fun _ => .bind (.invoke _ _) fun _ => waitWithSpinner_neverPanics env _ _ _ rfl
  have hkl : ∀ t, NeverPanics (waitUntilKlusterletConditionIsTrue env t) := fun _ =>
    .bind (.invoke _ _) fun _ => waitWithSpinner_neverPanics env _ _ _ rfl
  have happly : ∀ o, NeverPanics (applyManifests env o) := fun _ =>
    .bind (.invoke _ _) fun _ => .bind (.invoke _ _) fun _ => .bind (.invoke _ _) fun _ =>
      .bind (.ite _ (.invoke _ _) (.pure _)) fun _ => .bind (.invoke _ _) fun _ => .pure _
  exact .bind .getOpts fun o => .bind (happly o) fun _ =>
    .bind (.bind (.ite _ (hreg _) (.pure _)) fun _ => .ite _ (hkl _) (.pure _)) fun _ =>
      .bind (.modify _) fun _ => .invoke _ _

/-! ## A successful `run` -/

theorem waitForKlusterletsCRD_eq_ok {env : Env} {o : Options} {w w' : World} {u : Unit}
    (h : waitForKlusterletsCRD env o w = .ok u w') :
    (o.dryRun = false → env.waitUntilCRDReady klusterletsCRD o.wait = .ok ()) ∧
      w' = { w with log := w.log ++ if o.dryRun then [] else [.waitUntilCRDReady klusterletsCRD o.wait] } := by
  unfold waitForKlusterletsCRD at h
  cases hd : o.dryRun
  · simp only [hd, Bool.not_false, if_true, invoke_eq_ok] at h
    obtain ⟨h, rfl⟩ := h
    exact ⟨fun _ => h, rfl⟩
  · simp only [hd, Bool.not_true, Bool.false_eq_true, if_false, EStateM.pure_apply,
      EStateM.Result.ok.injEq] at h
    obtain ⟨-, rfl⟩ := h
    exact ⟨nofun, by simp⟩

theorem whenWaiting_eq_ok {o : Options} {waiter : JoinM Unit} {w w' : World} {u : Unit}
    (h : whenWaiting o waiter w = .ok u w') :
    if (o.wait && !o.dryRun) = true then waiter w = .ok u w' else w' = w := by
  unfold whenWaiting at h
  split <;> simp_all

/-- The calls of both waiters when both succeed, in order. -/
def waiterCalls (env : Env) (timeout : Int) : List Call :=
  .toRESTConfig :: .newForConfig :: waitCalls "Waiting for registration operator to become ready..."
      "Registration operator is now available.\n" (registrationOperatorWatch env timeout) ++
    .kubernetesClientSet :: waitCalls "Waiting for klusterlet agent to become ready..."
      "Klusterlet is now available.\n" (klusterletWatch env timeout)

/-- The calls of a successful `run` from receiver `o`, `output` being what it writes. -/
def runCalls (env : Env) (o : Options) (output : List String) : List Call :=
  manifestCalls o ++ (if o.wait && !o.dryRun then waiterCalls env o.timeout else []) ++
  [.printAcceptCommand o.values.clusterName, .writeOutput o.outputFile output]

/-- Both pod watches gave a stream in which a ready pod comes before any failure. -/
def WaitersSucceed (env : Env) (timeout : Int) : Prop :=
  (∃ items, env.watch (registrationOperatorWatch env timeout).request = .ok items ∧
    watchOutcome items = .ok ()) ∧
  (∃ items, env.watch (klusterletWatch env timeout).request = .ok items ∧ watchOutcome items = .ok ())

/-- A successful `applyManifests`: every apply succeeded, and the CRD wait unless in a dry run. -/
theorem applyManifests_eq_ok {env : Env} {o : Options} {w w' : World} {output : List String}
    (h : applyManifests env o w = .ok output w') :
    ∃ out₁ out₂ out₃, env.applyDirectly o.values o.dryRun joinFiles = .ok out₁ ∧
      env.applyDeployments o.values o.dryRun "join/operator.yaml" = .ok out₂ ∧
      (o.dryRun = false → env.waitUntilCRDReady klusterletsCRD o.wait = .ok ()) ∧
      env.applyCustomResources o.values o.dryRun "join/klusterlets.cr.yaml" = .ok out₃ ∧
      output = out₁ ++ out₂ ++ out₃ ∧ w' = { w with log := w.log ++ manifestCalls o } := by
  rw [applyManifests, invoke_bind_eq_ok] at h
  obtain ⟨_, -, h⟩ := h
  rw [invoke_bind_eq_ok] at h
  obtain ⟨out₁, h₁, h⟩ := h
  rw [invoke_bind_eq_ok] at h
  obtain ⟨out₂, h₂, h⟩ := h
  obtain ⟨_, w₁, hcrd, h⟩ := EStateM.bind_eq_ok.mp h
  obtain ⟨hready, rfl⟩ := waitForKlusterletsCRD_eq_ok hcrd
  rw [invoke_bind_eq_ok] at h
  obtain ⟨out₃, h₃, h⟩ := h
  obtain ⟨rfl, rfl⟩ := EStateM.Result.ok.inj h
  exact ⟨out₁, out₂, out₃, h₁, h₂, hready, h₃, by simp, by simp [manifestCalls, World.record]⟩

/-- A successful `waitForRollout`: with `--wait` outside a dry run both pods became ready, the registration
operator's first; the receiver is as it was. -/
theorem waitForRollout_eq_ok {env : Env} {o : Options} {w w' : World} {u : Unit}
    (h : waitForRollout env o w = .ok u w') :
    ((o.wait && !o.dryRun) = true → WaitersSucceed env o.timeout) ∧ w'.opts = w.opts ∧
      w'.log = w.log ++ if o.wait && !o.dryRun then waiterCalls env o.timeout else [] := by
  obtain ⟨_, w₁, hreg, hkl⟩ := EStateM.bind_eq_ok.mp h
  have hreg := whenWaiting_eq_ok hreg
  have hkl := whenWaiting_eq_ok hkl
  split at hreg
  · next hwt =>
      rw [if_pos hwt] at hkl
      obtain ⟨-, -, hr, hro, hrl⟩ := waitUntilRegistrationOperatorConditionIsTrue_eq_ok hreg
      obtain ⟨-, hk, hko, hkl⟩ := waitUntilKlusterletConditionIsTrue_eq_ok hkl
      exact ⟨fun _ => ⟨hr, hk⟩, hko.trans hro,
        by simp [hwt, waiterCalls, hkl, hrl, registrationOperatorCalls, klusterletCalls]⟩
  · next hwt =>
      rw [if_neg hwt] at hkl
      subst hreg hkl
      exact ⟨fun h => absurd h hwt, rfl, by simp [hwt]⟩

/-- **A successful `run`.** It applied the join manifests, the operator and the klusterlet resource in that
order, waited for the klusterlet CRD unless in a dry run, and, only with `--wait` outside a dry run, waited
for the registration operator and then the klusterlet agent, each with the whole timeout, both pods having
become ready; it then printed the accept command and wrote the three outputs, concatenated in order. The
receiver is left as it was. -/
theorem run_eq_ok {env : Env} {w w' : World} {u : Unit} (h : run env w = .ok u w') :
    ∃ out₁ out₂ out₃,
      env.applyDirectly w.opts.values w.opts.dryRun joinFiles = .ok out₁ ∧
      env.applyDeployments w.opts.values w.opts.dryRun "join/operator.yaml" = .ok out₂ ∧
      env.applyCustomResources w.opts.values w.opts.dryRun "join/klusterlets.cr.yaml" = .ok out₃ ∧
      ((w.opts.wait && !w.opts.dryRun) = true → WaitersSucceed env w.opts.timeout) ∧
      w'.opts = w.opts ∧ w'.log = w.log ++ runCalls env w.opts (out₁ ++ out₂ ++ out₃) := by
  rw [run, getOpts_bind_apply] at h
  obtain ⟨_, _, happly, h⟩ := EStateM.bind_eq_ok.mp h
  obtain ⟨out₁, out₂, out₃, h₁, h₂, -, h₃, rfl, rfl⟩ := applyManifests_eq_ok happly
  obtain ⟨_, w₂, hwait, h⟩ := EStateM.bind_eq_ok.mp h
  obtain ⟨hws, hopts, hlog⟩ := waitForRollout_eq_ok hwait
  obtain ⟨_, _, ⟨⟩, h⟩ := EStateM.bind_eq_ok.mp h
  obtain ⟨-, rfl⟩ := invoke_eq_ok.mp h
  exact ⟨out₁, out₂, out₃, h₁, h₂, h₃, hws, hopts, by simp [hlog, runCalls]⟩

/-- A managed cluster whose registration operator and klusterlet agent pods are ready at the first event. -/
def readyCluster : Env :=
  { hubWithoutClusterInfo with
    watch := fun _ => .ok [.event ⟨.pod ⟨[⟨"Ready", "True", "", ""⟩]⟩⟩] }

/-- **The waiters run in order, after the manifests.** In a successful run with `--wait` outside a dry run,
both pods became ready, and the calls were, in this order: the clients, the three applies with the wait for
the klusterlet CRD before the last, the registration operator's wait, whose watch was opened and stopped
before the klusterlet agent's was opened, each request carrying the whole timeout, and only then the accept
command and the output. -/
theorem run_waits_in_order {env : Env} {w w' : World} {u : Unit} (h : run env w = .ok u w')
    (hw : (w.opts.wait && !w.opts.dryRun) = true) :
    WaitersSucceed env w.opts.timeout ∧
      ∃ output, w'.log = w.log ++
        [.getClients, .applyDirectly w.opts.values w.opts.dryRun joinFiles,
         .applyDeployments w.opts.values w.opts.dryRun "join/operator.yaml",
         .waitUntilCRDReady klusterletsCRD w.opts.wait,
         .applyCustomResources w.opts.values w.opts.dryRun "join/klusterlets.cr.yaml"] ++
        waiterCalls env w.opts.timeout ++
        [.printAcceptCommand w.opts.values.clusterName, .writeOutput w.opts.outputFile output] := by
  obtain ⟨out₁, out₂, out₃, -, -, -, hws, -, hlog⟩ := run_eq_ok h
  obtain ⟨hwt, hd⟩ : w.opts.wait = true ∧ w.opts.dryRun = false := by simpa using hw
  exact ⟨hws hw, out₁ ++ out₂ ++ out₃, by simp [hlog, runCalls, manifestCalls, hwt, hd]⟩

theorem run_waits_in_order_sample :
    let w : World := ⟨{ sampleJoin with wait := true }, "", []⟩
    (run readyCluster w = .ok () (run readyCluster w).state ∧ (w.opts.wait && !w.opts.dryRun) = true) ∧
    WaitersSucceed readyCluster w.opts.timeout ∧
      ∃ output, (run readyCluster w).state.log = w.log ++
        [.getClients, .applyDirectly w.opts.values w.opts.dryRun joinFiles,
         .applyDeployments w.opts.values w.opts.dryRun "join/operator.yaml",
         .waitUntilCRDReady klusterletsCRD w.opts.wait,
         .applyCustomResources w.opts.values w.opts.dryRun "join/klusterlets.cr.yaml"] ++
        waiterCalls readyCluster w.opts.timeout ++
        [.printAcceptCommand w.opts.values.clusterName, .writeOutput w.opts.outputFile output] :=
  ⟨⟨rfl, rfl⟩, run_waits_in_order rfl rfl⟩

/-! ## The waits in sequence -/

/-- The registration operator's wait succeeded: its pod watch gave a stream in which a ready pod comes before
any failure. -/
def OperatorReady (env : Env) (timeout : Int) : Prop :=
  ∃ items, env.watch (registrationOperatorWatch env timeout).request = .ok items ∧ watchOutcome items = .ok ()

/-- Within the two waits, the klusterlet agent's pods are watched only once the registration operator's wait
has succeeded. -/
theorem waits_watch_agent_after_operator (env : Env) (o : Options) :
    Appends (everyCall fun c =>
        c = .watch (klusterletWatch env o.timeout).request → OperatorReady env o.timeout)
      (waitForRollout env o) := by
  have hnot : Call.watch (klusterletWatch env o.timeout).request ∉ registrationOperatorCalls env o.timeout := by
    simp [registrationOperatorCalls, waitCalls, registrationOperatorWatch, klusterletWatch]
  unfold waitForRollout
  refine fun w => (Appends.ite _ ((waitUntilRegistrationOperatorConditionIsTrue_calls env _).mono
    (by intro _ h c hc hk; exact absurd (hk ▸ h c hc) hnot)) (.pure _) w).bind fun _ w₁ hr => ?_
  have hr := whenWaiting_eq_ok hr
  unfold whenWaiting
  split at hr
  · next hwt =>
      obtain ⟨-, -, hready, -⟩ := waitUntilRegistrationOperatorConditionIsTrue_eq_ok hr
      rw [if_pos hwt]
      exact (waitUntilKlusterletConditionIsTrue_calls env _ w₁).mono fun _ _ _ _ _ => hready
  · next hwt =>
      rw [if_neg hwt]
      exact Appends.pure _ w₁

/-- **The agent is watched only once the operator is ready.** On every run of `run`, whatever each call
returns and however the run ends, the klusterlet agent's pods are watched only after the registration
operator's watch showed a ready pod before any failure: the two waits run in sequence, and a failed wait ends
the run. -/
theorem run_watches_agent_after_operator (env : Env) (w : World) :
    ∃ calls, (run env w).state.log = w.log ++ calls ∧
      (Call.watch (klusterletWatch env w.opts.timeout).request ∈ calls → OperatorReady env w.opts.timeout) := by
  obtain ⟨calls, hlog, hq⟩ := run_appends _ env w
    (fun c hc _ => everyCall_singleton.mpr fun h => by subst h; cases hc)
    (waits_watch_agent_after_operator env w.opts)
  exact ⟨calls, hlog, fun hk => hq _ hk rfl⟩

/-! ## The accept hint -/

/-- What `run` from receiver `o` has done when it reaches the accept hint: it applied the join manifests, the
operator and the klusterlet resource, waited for the klusterlet CRD unless in a dry run, and, with `--wait`
outside a dry run, saw both pods become ready. -/
def RolledOut (env : Env) (o : Options) : Prop :=
  (∃ out, env.applyDirectly o.values o.dryRun joinFiles = .ok out) ∧
  (∃ out, env.applyDeployments o.values o.dryRun "join/operator.yaml" = .ok out) ∧
  (o.dryRun = false → env.waitUntilCRDReady klusterletsCRD o.wait = .ok ()) ∧
  (∃ out, env.applyCustomResources o.values o.dryRun "join/klusterlets.cr.yaml" = .ok out) ∧
  ((o.wait && !o.dryRun) = true → WaitersSucceed env o.timeout)

/-- **The accept hint follows the rollout.** On every run of `run`, however it ends (the output file may
still fail to be written), the hint to accept the cluster is printed only for the cluster being joined and
only once every manifest was applied and, with `--wait` outside a dry run, both pods became ready. -/
theorem run_prints_accept_after_rollout (env : Env) (w : World) :
    ∃ calls, (run env w).state.log = w.log ++ calls ∧
      ∀ name, Call.printAcceptCommand name ∈ calls →
        name = w.opts.values.clusterName ∧ RolledOut env w.opts := by
  let Q := everyCall fun c => ∀ name, c = .printAcceptCommand name →
    name = w.opts.values.clusterName ∧ RolledOut env w.opts
  have hother : ∀ c, (∀ name, c ≠ .printAcceptCommand name) → Q.holds [c] := fun c hc =>
    everyCall_singleton.mpr fun name h => absurd h (hc name)
  obtain ⟨calls, hlog, hq⟩ : AppendsFrom Q (run env) w := by
    refine .bind_of_ok rfl rfl (((applyManifests_calls env w.opts).of_everyCall fun c hc => hother c ?_) w
      |>.bind fun _ _ happly => ?_)
    · rintro name rfl
      simp [manifestCalls] at hc
    refine (((waitForRollout_calls env w.opts).of_everyCall fun c hc => hother c ?_) _).bind fun _ _ hwait => ?_
    · rintro name rfl
      cases hc
    refine (Appends.record _ (everyCall_singleton.mpr ?_) _).bind fun _ _ _ =>
      Appends.invoke _ _ (hother _ (by simp)) _
    rintro _ ⟨⟩
    obtain ⟨_, _, _, h₁, h₂, hcrd, h₃, -⟩ := applyManifests_eq_ok happly
    exact ⟨rfl, ⟨_, h₁⟩, ⟨_, h₂⟩, hcrd, ⟨_, h₃⟩, (waitForRollout_eq_ok hwait).1⟩
  exact ⟨calls, hlog, fun name h => hq _ h name rfl⟩

end Clusteradm.Join
