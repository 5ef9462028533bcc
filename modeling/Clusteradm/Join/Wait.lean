import Clusteradm.Join.World
import Clusteradm.Kube.Conditions

/-!
# The readiness waiters

After the manifests are applied the join command waits, twice in sequence, for a pod to report `Ready`: the
registration operator, then the klusterlet agent. Each waiter opens a pod watch and hands `WatchUntil` a
predicate that stores a progress text for its spinner and answers whether the event's pod is ready. The
predicate first copies the pod's conditions into `metav1.Condition`s, index by index, then asks
`meta.IsStatusConditionTrue` for `Ready`; `podReady_eq` says what that computes, on every event and from every
world, so the answer never depends on earlier events or on the stored text.
-/

namespace Clusteradm.Join

/-! ## The predicate -/

/-- The `metav1.Condition` built from a pod condition. -/
def toCondition (c : PodCondition) : Condition :=
  { type := c.type, status := c.status, reason := c.reason, message := c.message }

/-- `conds := make([]metav1.Condition, len(cs)); for i := range cs { conds[i] = ... }`. -/
def convertConditions (cs : List PodCondition) : List Condition :=
  (List.range cs.length).foldl (fun conds i => conds.set i (toCondition (cs.getD i default)))
    (List.replicate cs.length default)

/-- The predicate both waiters pass to `WatchUntil`. -/
def podReady (getSpinnerPodStatus : Pod → String) (event : Event) : JoinM Bool :=
  match event.object with
  | .other _ => pure false
  | .pod pod => do
      modify fun w => { w with phase := getSpinnerPodStatus pod }
      return isStatusConditionTrue (convertConditions pod.conditions) "Ready"

/-- Readiness read directly off the event: it carries a pod, and the first of its conditions of type
`Ready` has status `True`. -/
def firstReadyIsTrue (event : Event) : Bool :=
  match event.object with
  | .pod p =>
      match p.conditions.find? (·.type == "Ready") with
      | some c => c.status == "True"
      | none => false
  | .other _ => false

/-- The world after the predicate saw `event`: a pod's progress text is stored, anything else is ignored. -/
def storePhase (getSpinnerPodStatus : Pod → String) (event : Event) (w : World) : World :=
  match event.object with
  | .pod p => { w with phase := getSpinnerPodStatus p }
  | .other _ => w

/-- The loop invariant: after the first `k` rounds, the first `k` conditions are converted and the rest are
still zero values. -/
theorem convertConditions_prefix (cs : List PodCondition) (k : Nat) (hk : k ≤ cs.length) :
    (List.range k).foldl (fun conds i => conds.set i (toCondition (cs.getD i default)))
        (List.replicate cs.length default) =
      (cs.take k).map toCondition ++ List.replicate (cs.length - k) default := by
  induction k with
  | zero => simp
  | succ k ih =>
      have hlt : k < cs.length := hk
      have hget : cs.getD k default = cs[k] := by simp [List.getElem?_eq_getElem hlt]
      obtain ⟨m, hm⟩ : ∃ m, cs.length - k = m + 1 := ⟨cs.length - k - 1, by omega⟩
      have hset : ((cs.take k).map toCondition).length ≤ k := by
        simp only [List.length_map, List.length_take]; omega
      rw [List.range_succ, List.foldl_append, ih (Nat.le_of_lt hlt), List.foldl_cons, List.foldl_nil,
        List.set_append_right _ _ hset, List.length_map, List.length_take,
        Nat.min_eq_left (Nat.le_of_lt hlt), Nat.sub_self, hm, List.replicate_succ, List.set_cons_zero,
        List.take_succ, List.getElem?_eq_getElem hlt, Option.toList_some, hget, List.map_append,
        List.map_singleton, List.append_assoc, List.singleton_append,
        show cs.length - (k + 1) = m by omega]

/-- The conversion loop copies every condition. -/
theorem convertConditions_eq_map (cs : List PodCondition) :
    convertConditions cs = cs.map toCondition := by
  rw [convertConditions, convertConditions_prefix cs cs.length (Nat.le_refl _)]
  simp

/-- **The readiness predicate.** On every event and from every world, the predicate answers whether the
first `Ready` condition of the event's pod is `True`, and does nothing but store the pod's progress text. -/
theorem podReady_eq (getSpinnerPodStatus : Pod → String) (event : Event) (w : World) :
    podReady getSpinnerPodStatus event w =
      .ok (firstReadyIsTrue event) (storePhase getSpinnerPodStatus event w) := by
  rcases event with ⟨pod | kind⟩
  · simp only [podReady, firstReadyIsTrue, storePhase, EStateM.bind_apply, EStateM.modify_apply,
      EStateM.pure_apply, isStatusConditionTrue, isStatusConditionPresentAndEqual_eq,
      findStatusCondition_eq_find, convertConditions_eq_map, List.find?_map]
    cases h : pod.conditions.find? (·.type == "Ready") <;>
      simp [h, toCondition, conditionTrue, Function.comp_def]
  · rfl

/-! ## `WatchUntil` -/

/-- Modelled from the spec: the loop of `helpers.WatchUntil`, the condition poller. It reads the stream in
order: an event the predicate accepts ends it with success, a failure of the stream ends it with that
error, and a stream that closes first ends it with the timeout error. -/
def watchUntilLoop (assertEvent : Event → JoinM Bool) : List StreamItem → JoinM Unit
  | [] => throw (.error .timeout)
  | .failure err :: _ => throw (.error err)
  | .event e :: rest => do
      if ← assertEvent e then pure () else watchUntilLoop assertEvent rest

/-- Modelled from the spec: `helpers.WatchUntil`. It opens the watch once and stops it on every exit. -/
def watchUntil (env : Env) (request : WatchRequest) (assertEvent : Event → JoinM Bool) : JoinM Unit := do
  let stream ← invoke (.watch request) (env.watch request)
  EStateM.deferring (watchUntilLoop assertEvent stream) (World.record .watchStop)

/-! ## The waiters -/

/-- What a readiness waiter hands `WatchUntil`: the pod watch it opens and the predicate it applies. -/
structure PodWatch where
  request : WatchRequest
  assertEvent : Event → JoinM Bool

/-- The part both waiters share once their client is built: a fresh progress text, a spinner that shows it
and is stopped on every exit (`defer spinner.Stop()`), and the wait. -/
def waitWithSpinner (env : Env) (title final : String) (pw : PodWatch) : JoinM Unit := do
  modify fun w => { w with phase := "" }
  modify (World.record (.spinnerStart title final))
  EStateM.deferring (watchUntil env pw.request pw.assertEvent) (World.record .spinnerStop)

/-- The registration operator's pods, and the readiness predicate. -/
def registrationOperatorWatch (env : Env) (timeout : Int) : PodWatch where
  request := { podNamespace := "open-cluster-management", labelSelector := "app=klusterlet",
               timeoutSeconds := timeout }
  assertEvent := podReady env.getSpinnerPodStatus

/-- `waitUntilRegistrationOperatorConditionIsTrue`. -/
def waitUntilRegistrationOperatorConditionIsTrue (env : Env) (timeout : Int) : JoinM Unit := do
  invoke .toRESTConfig env.toRESTConfig
  invoke .newForConfig env.newForConfig
  waitWithSpinner env "Waiting for registration operator to become ready..."
    "Registration operator is now available.\n" (registrationOperatorWatch env timeout)

/-- The klusterlet agent's pods, and the readiness predicate. -/
def klusterletWatch (env : Env) (timeout : Int) : PodWatch where
  request := { podNamespace := "open-cluster-management-agent",
               labelSelector := "app=klusterlet-registration-agent", timeoutSeconds := timeout }
  assertEvent := podReady env.getSpinnerPodStatus

/-- `waitUntilKlusterletConditionIsTrue`. -/
def waitUntilKlusterletConditionIsTrue (env : Env) (timeout : Int) : JoinM Unit := do
  invoke .kubernetesClientSet env.kubernetesClientSet
  waitWithSpinner env "Waiting for klusterlet agent to become ready..." "Klusterlet is now available.\n"
    (klusterletWatch env timeout)

/-! ## Runs of the watch -/

/-- Where `WatchUntil` with the readiness predicate stops: at a failure of the stream, or at a ready pod. -/
def stopsWatch : StreamItem → Bool
  | .failure _ => true
  | .event e => firstReadyIsTrue e

/-- The outcome of a watch over `items`: success at a ready pod that comes before any failure, the failure's
error when one comes first, the timeout error when the stream closes first. -/
def watchOutcome (items : List StreamItem) : Except GoError Unit :=
  match items.find? stopsWatch with
  | some (.event _) => .ok ()
  | some (.failure err) => .error err
  | none => .error .timeout

/-- A Go outcome, returned from world `w`. -/
def resultOf (r : Except GoError Unit) (w : World) : EStateM.Result Fault World Unit :=
  match r with
  | .ok a => .ok a w
  | .error e => .error (.error e) w

@[simp] theorem resultOf_eq_ok {r : Except GoError Unit} {w w' : World} {u : Unit} :
    resultOf r w = .ok u w' ↔ r = .ok u ∧ w = w' := by
  cases r <;> simp [resultOf]

@[simp] theorem resultOf_value (r : Except GoError Unit) (w : World) : (resultOf r w).value = r.mapError .error := by
  cases r <;> rfl

/-- One round of the loop with the readiness predicate. -/
theorem watchUntilLoop_event (getSpinnerPodStatus : Pod → String) (e : Event) (rest : List StreamItem)
    (w : World) :
    watchUntilLoop (podReady getSpinnerPodStatus) (.event e :: rest) w =
      if firstReadyIsTrue e then .ok () (storePhase getSpinnerPodStatus e w)
      else watchUntilLoop (podReady getSpinnerPodStatus) rest (storePhase getSpinnerPodStatus e w) := by
  simp only [watchUntilLoop, EStateM.bind_apply, podReady_eq]
  cases firstReadyIsTrue e <;> rfl

theorem watchOutcome_event (e : Event) (rest : List StreamItem) :
    watchOutcome (.event e :: rest) = if firstReadyIsTrue e then .ok () else watchOutcome rest := by
  simp only [watchOutcome, List.find?_cons, stopsWatch]
  cases firstReadyIsTrue e <;> rfl

theorem storePhase_eq (getSpinnerPodStatus : Pod → String) (e : Event) (w : World) :
    ∃ phase, storePhase getSpinnerPodStatus e w = { w with phase } := by
  unfold storePhase
  split
  · exact ⟨_, rfl⟩
  · exact ⟨w.phase, rfl⟩

/-- The events the loop hands the predicate: each one up to the first it accepts, none past a failure of the
stream. -/
def evaluatedEvents : List StreamItem → List Event
  | [] => []
  | .failure _ :: _ => []
  | .event e :: rest => e :: if firstReadyIsTrue e then [] else evaluatedEvents rest

/-- The world after the predicate saw `events` in turn. -/
def storePhases (getSpinnerPodStatus : Pod → String) (events : List Event) (w : World) : World :=
  events.foldl (fun w e => storePhase getSpinnerPodStatus e w) w

theorem storePhases_eq (getSpinnerPodStatus : Pod → String) (events : List Event) (w : World) :
    ∃ phase, storePhases getSpinnerPodStatus events w = { w with phase } := by
  induction events generalizing w with
  | nil => exact ⟨w.phase, rfl⟩
  | cons e events ih =>
      obtain ⟨phase₀, hs⟩ := storePhase_eq getSpinnerPodStatus e w
      obtain ⟨phase, h⟩ := ih (storePhase getSpinnerPodStatus e w)
      exact ⟨phase, by rw [storePhases, List.foldl_cons, ← storePhases, h, hs]⟩

/-- The progress text of the last pod among `events`, if any. -/
def lastPodStatus (getSpinnerPodStatus : Pod → String) (events : List Event) : Option String :=
  (events.filterMap fun e => match e.object with
    | .pod p => some (getSpinnerPodStatus p)
    | .other _ => none).getLast?

/-- Each pod overwrites the text the one before it left; other objects leave it. -/
theorem storePhases_phase (getSpinnerPodStatus : Pod → String) (events : List Event) (w : World) :
    (storePhases getSpinnerPodStatus events w).phase = (lastPodStatus getSpinnerPodStatus events).getD w.phase := by
  induction events generalizing w with
  | nil => rfl
  | cons e events ih =>
      rw [storePhases, List.foldl_cons, ← storePhases, ih]
      rcases e with ⟨p | kind⟩
      · simp [lastPodStatus, storePhase, List.getLast?_cons]
      · rfl

/-- **The watch loop and its progress text.** Over any stream, `WatchUntil`'s loop with the readiness
predicate returns `watchOutcome`, and the progress text is the one the pods it evaluated left, each
overwriting the one before; nothing else in the world changes. -/
theorem watchUntilLoop_progress (getSpinnerPodStatus : Pod → String) (items : List StreamItem)
    (w : World) :
    watchUntilLoop (podReady getSpinnerPodStatus) items w =
      resultOf (watchOutcome items) (storePhases getSpinnerPodStatus (evaluatedEvents items) w) := by
  induction items generalizing w with
  | nil => rfl
  | cons item items ih =>
      cases item with
      | failure err => rfl
      | event e =>
          rw [watchUntilLoop_event, watchOutcome_event, evaluatedEvents]
          cases firstReadyIsTrue e
          · simp only [Bool.false_eq_true, if_false, storePhases, List.foldl_cons, ih]
          · rfl

/-- The watch loop changes nothing in the world but the progress text. -/
theorem watchUntilLoop_podReady (getSpinnerPodStatus : Pod → String) (items : List StreamItem)
    (w : World) :
    ∃ phase, watchUntilLoop (podReady getSpinnerPodStatus) items w =
      resultOf (watchOutcome items) { w with phase } := by
  obtain ⟨phase, h⟩ := storePhases_eq getSpinnerPodStatus (evaluatedEvents items) w
  exact ⟨phase, by rw [watchUntilLoop_progress, h]⟩

/-- **A stream that closes without a ready pod times out.** When no item of the stream is a ready pod or a
failure (pods that are not ready, and objects of other kinds, are passed over), the loop ends with the
timeout error, not with success or another error. -/
theorem watchUntilLoop_times_out (getSpinnerPodStatus : Pod → String) (items : List StreamItem)
    (h : ∀ item ∈ items, stopsWatch item = false) (w : World) :
    ∃ phase, watchUntilLoop (podReady getSpinnerPodStatus) items w =
      .error (.error .timeout) { w with phase } := by
  obtain ⟨phase, hl⟩ := watchUntilLoop_podReady getSpinnerPodStatus items w
  have hout : watchOutcome items = .error .timeout := by
    rw [watchOutcome, List.find?_eq_none.mpr (by simpa using h)]
  exact ⟨phase, by rw [hl, hout]; rfl⟩

theorem watchUntilLoop_times_out_sample :
    let items : List StreamItem :=
      [.event ⟨.pod ⟨[⟨"Ready", "False", "", ""⟩]⟩⟩, .event ⟨.other "Event"⟩]
    (∀ item ∈ items, stopsWatch item = false) ∧
      ∃ phase, watchUntilLoop (podReady fun _ => "") items ⟨sampleJoin, "", []⟩ =
        .error (.error .timeout) { (⟨sampleJoin, "", []⟩ : World) with phase } :=
  ⟨by decide, watchUntilLoop_times_out _ _ (by decide) _⟩

/-- Nothing after the item the watch stops at is read: a stream that would fail on its next read gives the
same run. -/
theorem watchUntilLoop_append_of_stops (getSpinnerPodStatus : Pod → String) (items rest : List StreamItem)
    (h : ∃ item ∈ items, stopsWatch item) (w : World) :
    watchUntilLoop (podReady getSpinnerPodStatus) (items ++ rest) w =
      watchUntilLoop (podReady getSpinnerPodStatus) items w := by
  induction items generalizing w with
  | nil => simp at h
  | cons item items ih =>
      cases item with
      | failure err => rfl
      | event e =>
          rw [List.cons_append, watchUntilLoop_event, watchUntilLoop_event]
          cases hr : firstReadyIsTrue e
          · have h' : ∃ item ∈ items, stopsWatch item := by simpa [stopsWatch, hr] using h
            simp only [Bool.false_eq_true, if_false, ih h']
          · rfl

theorem watchUntilLoop_append_of_stops_sample :
    let ready : StreamItem := .event ⟨.pod ⟨[⟨"Ready", "True", "", ""⟩]⟩⟩
    (∃ item ∈ [ready], stopsWatch item) ∧
      watchUntilLoop (podReady fun _ => "") ([ready] ++ [.failure .timeout]) ⟨sampleJoin, "", []⟩ =
        watchUntilLoop (podReady fun _ => "") [ready] ⟨sampleJoin, "", []⟩ :=
  ⟨by decide, watchUntilLoop_append_of_stops _ _ _ (by decide) _⟩

/-- **A waiter once its client is built.** On every exit the spinner is stopped, and the watch too once it
was opened; the outcome is the stream's `watchOutcome`. -/
theorem waitWithSpinner_podReady (env : Env) (title final : String) (pw : PodWatch)
    (hpw : pw.assertEvent = podReady env.getSpinnerPodStatus) (w : World) :
    ∃ phase, waitWithSpinner env title final pw w =
      match env.watch pw.request with
      | .error e => .error (.error e)
          { w with phase := "", log := w.log ++ [.spinnerStart title final, .watch pw.request, .spinnerStop] }
      | .ok items => resultOf (watchOutcome items)
          { w with
            phase,
            log := w.log ++ [.spinnerStart title final, .watch pw.request, .watchStop, .spinnerStop] } := by
  simp only [waitWithSpinner, watchUntil, hpw, EStateM.bind_apply, EStateM.modify_apply]
  cases env.watch pw.request with
  | error e => exact ⟨"", by simp [invoke_apply, EStateM.deferring, World.record]⟩
  | ok items =>
      obtain ⟨phase, h⟩ := watchUntilLoop_podReady env.getSpinnerPodStatus items
        { w with phase := "", log := w.log ++ [.spinnerStart title final, .watch pw.request] }
      refine ⟨phase, ?_⟩
      simp only [EStateM.bind_apply, invoke_apply, EStateM.deferring, World.record, List.append_assoc,
        List.singleton_append] at h ⊢
      rw [h]
      cases watchOutcome items <;> simp [resultOf]

/-- What a waiter returns, read off the outcomes of its calls: the first error building its clients, else
the error opening its watch, else the outcome of the stream. -/
def waiterOutcome (env : Env) (clients : Except GoError Unit) (pw : PodWatch) : Except Fault Unit :=
  (do clients; watchOutcome (← env.watch pw.request)).mapError .error

theorem waitWithSpinner_value (env : Env) (title final : String) (pw : PodWatch)
    (hpw : pw.assertEvent = podReady env.getSpinnerPodStatus) (w : World) :
    (waitWithSpinner env title final pw w).value = waiterOutcome env (.ok ()) pw := by
  obtain ⟨phase, h⟩ := waitWithSpinner_podReady env title final pw hpw w
  rw [h, waiterOutcome]
  cases env.watch pw.request with
  | error e => rfl
  | ok items => exact resultOf_value _ _

theorem waitUntilRegistrationOperatorConditionIsTrue_value (env : Env) (timeout : Int) (w : World) :
    (waitUntilRegistrationOperatorConditionIsTrue env timeout w).value =
      waiterOutcome env (do env.toRESTConfig; env.newForConfig) (registrationOperatorWatch env timeout) := by
  simp only [waitUntilRegistrationOperatorConditionIsTrue, EStateM.bind_apply, invoke_apply]
  cases env.toRESTConfig <;> cases env.newForConfig <;>
    first | rfl | exact waitWithSpinner_value env _ _ (registrationOperatorWatch env timeout) rfl _

theorem waitUntilKlusterletConditionIsTrue_value (env : Env) (timeout : Int) (w : World) :
    (waitUntilKlusterletConditionIsTrue env timeout w).value =
      waiterOutcome env env.kubernetesClientSet (klusterletWatch env timeout) := by
  simp only [waitUntilKlusterletConditionIsTrue, EStateM.bind_apply, invoke_apply]
  cases env.kubernetesClientSet <;>
    first | rfl | exact waitWithSpinner_value env _ _ (klusterletWatch env timeout) rfl _

/-- **Both waiters' predicate.** For each waiter, on every event and from every world (whatever events came
before and whatever progress text is stored), the predicate it hands `WatchUntil` accepts exactly the pods
whose first `Ready` condition is `True`, rejects every other object, and only stores the pod's progress
text; and it is the predicate the waiter's wait runs on: from every world, the waiter returns its clients'
error, its watch's, or the outcome of its stream under that predicate. -/
theorem waiters_accept_first_ready_condition (env : Env) (timeout : Int) :
    (∀ (event : Event) (w : World), (registrationOperatorWatch env timeout).assertEvent event w =
      .ok (firstReadyIsTrue event) (storePhase env.getSpinnerPodStatus event w)) ∧
    (∀ (event : Event) (w : World), (klusterletWatch env timeout).assertEvent event w =
      .ok (firstReadyIsTrue event) (storePhase env.getSpinnerPodStatus event w)) ∧
    (∀ w : World, (waitUntilRegistrationOperatorConditionIsTrue env timeout w).value =
      waiterOutcome env (do env.toRESTConfig; env.newForConfig) (registrationOperatorWatch env timeout)) ∧
    (∀ w : World, (waitUntilKlusterletConditionIsTrue env timeout w).value =
      waiterOutcome env env.kubernetesClientSet (klusterletWatch env timeout)) :=
  ⟨podReady_eq _, podReady_eq _, waitUntilRegistrationOperatorConditionIsTrue_value env timeout,
    waitUntilKlusterletConditionIsTrue_value env timeout⟩

/-- **Each wait shows only its own progress.** Whatever the world before it, a waiter leaves as progress text
the status of the last pod its own watch evaluated, or the empty text when it evaluated none or its watch
could not be opened: nothing of an earlier wait remains. -/
theorem waitWithSpinner_phase (env : Env) (title final : String) (pw : PodWatch)
    (hpw : pw.assertEvent = podReady env.getSpinnerPodStatus) (w : World) :
    (waitWithSpinner env title final pw w).state.phase =
      match env.watch pw.request with
      | .error _ => ""
      | .ok items => (lastPodStatus env.getSpinnerPodStatus (evaluatedEvents items)).getD "" := by
  simp only [waitWithSpinner, watchUntil, hpw, EStateM.bind_apply, EStateM.modify_apply, EStateM.deferring_state,
    World.record_phase, invoke_apply]
  cases env.watch pw.request with
  | error e => rfl
  | ok items =>
      simp only [EStateM.deferring_state, World.record_phase, watchUntilLoop_progress]
      cases watchOutcome items <;> simp [resultOf, storePhases_phase]

/-- A managed cluster whose registration operator pod is seen not ready, then ready; the progress text of a
pod is the reason of its first condition. -/
def rollingOutCluster : Env :=
  { hubWithoutClusterInfo with
    watch := fun _ => .ok [.event ⟨.pod ⟨[⟨"Ready", "False", "ContainersNotReady", ""⟩]⟩⟩,
                           .event ⟨.pod ⟨[⟨"Ready", "True", "PodReady", ""⟩]⟩⟩]
    getSpinnerPodStatus := fun p => (p.conditions.head?.map (·.reason)).getD "" }

/-- The registration operator's wait after a world whose progress text is stale: the second pod's text
overwrites the first's. -/
theorem waitWithSpinner_phase_sample :
    (registrationOperatorWatch rollingOutCluster 300).assertEvent =
        podReady rollingOutCluster.getSpinnerPodStatus ∧
      (waitWithSpinner rollingOutCluster "Waiting for registration operator to become ready..."
          "Registration operator is now available.\n" (registrationOperatorWatch rollingOutCluster 300)
          ⟨sampleJoin, "ContainerCreating", []⟩).state.phase = "PodReady" :=
  ⟨rfl, (waitWithSpinner_phase rollingOutCluster _ _ _ rfl _).trans rfl⟩

end Clusteradm.Join
