import Clusteradm.Kube.Types

/-!
# The join command's world

`Options` is the receiver every method of the join command mutates. Everything outside the command (the hub
and managed cluster APIs, the file system, the yaml encoder, the manifest applier) is an `Env`: one outcome
function per call, so that a theorem over all `Env`s holds for every outcome of every call. Each call the
command makes is appended to the world's `log`, which is how a theorem says that a call was, or was not, made.
-/

namespace Clusteradm.Join

/-! ## Options and template values -/

/-- `version.VersionBundle`, by the four image versions the join command reads. -/
structure VersionBundle where
  registration : String
  placement : String
  work : String
  operator : String
deriving DecidableEq, Repr

/-- `Hub` of the template values. -/
structure Hub where
  apiServer : String := ""
  kubeConfig : String := ""
deriving DecidableEq, Repr

/-- `Klusterlet` of the template values. -/
structure Klusterlet where
  apiServer : String := ""
deriving DecidableEq, Repr

/-- `BundleVersion` of the template values. -/
structure BundleVersion where
  registrationImageVersion : String := ""
  placementImageVersion : String := ""
  workImageVersion : String := ""
  operatorImageVersion : String := ""
deriving DecidableEq, Repr

/-- `Values`: what the join manifests are rendered with. Omitted fields take Go's zero value. -/
structure Values where
  clusterName : String := ""
  hub : Hub := {}
  klusterlet : Klusterlet := {}
  registry : String := ""
  bundleVersion : BundleVersion := {}
deriving DecidableEq, Repr

/-- The join command's `Options`, with the two `ClusteradmFlags` it reads (`DryRun`, `Timeout`). `hubCADate`
is the `[]byte` the code tests against `nil`, and `hubConfig` the `*Config` pointer. -/
structure Options where
  dryRun : Bool
  timeout : Int
  values : Values
  token : String
  hubAPIServer : String
  caFile : String
  clusterName : String
  outputFile : String
  wait : Bool
  registry : String
  bundleVersion : String
  forceHubInClusterEndpointLookup : Bool
  hubInClusterEndpoint : String
  hubCADate : Option Bytes
  hubConfig : Option Config
deriving DecidableEq, Repr

/-! ## Calls and their outcomes -/

/-- A typed client, known by what it was built from: a kubeconfig
(`helpers.CreateClientFromClientcmdapiv1Config`), or the kubectl factory of the cluster being joined. -/
inductive Clientset
  | ofKubeconfig (cfg : Config)
  | ofFactory
deriving DecidableEq, Repr

/-- A call of the join command to something outside it. -/
inductive Call
  | getVersionBundle (version : String)
  | readFile (path : String)
  | createClientFromClientcmdapiv1Config (cfg : Config)
  | getAPIServer (client : Clientset)
  | getCACert (client : Clientset)
  | kubernetesClientSet
  | runChecks (hubConfig : Option Config)
  | marshal (hubConfig : Option Config)
  | getClients
  | applyDirectly (values : Values) (dryRun : Bool) (files : List String)
  | applyDeployments (values : Values) (dryRun : Bool) (file : String)
  | waitUntilCRDReady (crd : String) (wait : Bool)
  | applyCustomResources (values : Values) (dryRun : Bool) (file : String)
  | toRESTConfig
  | newForConfig
  | spinnerStart (title final : String)
  | spinnerStop
  | watch (req : WatchRequest)
  | watchStop
  | printAcceptCommand (clusterName : String)
  | writeOutput (file : String) (output : List String)
deriving DecidableEq, Repr

/-- The template values and the dry-run flag a call applies manifests with, when it applies any. -/
def Call.applied : Call → Option (Values × Bool)
  | .applyDirectly values dryRun _ | .applyDeployments values dryRun _
  | .applyCustomResources values dryRun _ => some (values, dryRun)
  | _ => none

/-- The outcome of each call. `getAPIServer` returns Go's pair: the string is kept even beside an error.
`runChecks` is `preflight.RunChecks` on the one `HubKubeconfigCheck`, which reads its config; `validAPIHost`
is `preflight.ValidAPIHost`, of a package outside this source. -/
structure Env where
  getVersionBundle : String → Except GoError VersionBundle
  readFile : String → Except GoError Bytes
  createClientFromClientcmdapiv1Config : Config → Except GoError Unit
  getAPIServer : Clientset → String × Option GoError
  getCACert : Clientset → Except GoError Bytes
  kubernetesClientSet : Except GoError Unit
  validAPIHost : String → Bool
  runChecks : Option Config → Except GoError Unit
  marshal : Option Config → Except GoError String
  getClients : Except GoError Unit
  applyDirectly : Values → Bool → List String → Except GoError (List String)
  applyDeployments : Values → Bool → String → Except GoError (List String)
  waitUntilCRDReady : String → Bool → Except GoError Unit
  applyCustomResources : Values → Bool → String → Except GoError (List String)
  toRESTConfig : Except GoError Unit
  newForConfig : Except GoError Unit
  watch : WatchRequest → Except GoError (List StreamItem)
  getSpinnerPodStatus : Pod → String
  writeOutput : String → List String → Except GoError Unit

/-! ## The monad -/

/-- The receiver, the progress text a waiter's spinner shows (its `atomic.Value`), and the calls made. -/
structure World where
  opts : Options
  phase : String
  log : List Call
deriving DecidableEq, Repr

/-- A method of the join command. -/
abbrev JoinM := EStateM Fault World

/-- Append a call to the log. -/
def World.record (c : Call) (w : World) : World := { w with log := w.log ++ [c] }

/-- Make the call `c`, whose outcome is `r`, and return on its error:
`x, err := f(); if err != nil { return err }`. -/
def invoke {α : Type} (c : Call) (r : Except GoError α) : JoinM α := do
  modify (World.record c)
  match r with
  | .ok a => pure a
  | .error e => throw (.error e)

/-- `return fmt.Errorf(msg)`. -/
def fail {α : Type} (msg : String) : JoinM α := throw (.error (.text msg))

/-- Read the receiver. -/
def getOpts : JoinM Options := do return (← get).opts

/-- Mutate the receiver. -/
def modifyOpts (f : Options → Options) : JoinM Unit := modify fun w => { w with opts := f w.opts }

@[simp] theorem World.record_opts (c : Call) (w : World) : (w.record c).opts = w.opts := rfl

@[simp] theorem World.record_phase (c : Call) (w : World) : (w.record c).phase = w.phase := rfl

@[simp] theorem World.record_log (c : Call) (w : World) : (w.record c).log = w.log ++ [c] := rfl

theorem invoke_apply {α : Type} (c : Call) (r : Except GoError α) (w : World) :
    invoke c r w = match r with
      | .ok a => .ok a (w.record c)
      | .error e => .error (.error e) (w.record c) := by
  cases r <;> rfl

@[simp] theorem invoke_eq_ok {α : Type} {c : Call} {r : Except GoError α} {w w' : World} {a : α} :
    invoke c r w = .ok a w' ↔ r = .ok a ∧ w' = w.record c := by
  rw [invoke_apply]
  cases r <;> simp [eq_comm]

@[simp] theorem fail_apply {α : Type} (msg : String) (w : World) :
    (fail msg : JoinM α) w = .error (.error (.text msg)) w := rfl

@[simp] theorem getOpts_apply (w : World) : getOpts w = .ok w.opts w := rfl

@[simp] theorem modifyOpts_apply (f : Options → Options) (w : World) :
    modifyOpts f w = .ok ⟨⟩ { w with opts := f w.opts } := rfl

/-! The three steps a successful run is peeled at: reading the receiver, writing it, and a call. -/

theorem getOpts_bind_apply {β : Type} (f : Options → JoinM β) (w : World) :
    (getOpts >>= f) w = f w.opts w := rfl

theorem modifyOpts_bind_apply {β : Type} (g : Options → Options) (f : Unit → JoinM β) (w : World) :
    (modifyOpts g >>= f) w = f () { w with opts := g w.opts } := rfl

theorem invoke_bind_eq_ok {α β : Type} {c : Call} {r : Except GoError α} {f : α → JoinM β} {w w' : World}
    {b : β} : (invoke c r >>= f) w = .ok b w' ↔ ∃ a, r = .ok a ∧ f a (w.record c) = .ok b w' := by
  rw [EStateM.bind_apply, invoke_apply]
  cases r <;> simp

/-! ## Panics -/

/-- From world `w`, `x` does not panic: if it fails, it fails with a Go `error`. -/
def NoPanicFrom {α : Type} (x : JoinM α) (w : World) : Prop :=
  ∀ what w', x w ≠ .error (.panic what) w'

/-- `x` panics from no world. -/
def NeverPanics {α : Type} (x : JoinM α) : Prop := ∀ w, NoPanicFrom x w

section NoPanic

variable {α β : Type}

theorem NoPanicFrom.bind {x : JoinM α} {f : α → JoinM β} {w : World} (hx : NoPanicFrom x w)
    (hf : ∀ a w₁, x w = .ok a w₁ → NoPanicFrom (f a) w₁) : NoPanicFrom (x >>= f) w := by
  intro what w'
  rw [EStateM.bind_apply]
  cases hr : x w with
  | ok a w₁ => exact hf a w₁ hr what w'
  | error e w₁ =>
      rintro ⟨⟩
      exact hx what w' hr

theorem NeverPanics.bind {x : JoinM α} {f : α → JoinM β} (hx : NeverPanics x)
    (hf : ∀ a, NeverPanics (f a)) : NeverPanics (x >>= f) :=
  fun w => (hx w).bind fun a w₁ _ => hf a w₁

theorem NeverPanics.of_ok {x : JoinM α} (h : ∀ w, ∃ a w', x w = .ok a w') : NeverPanics x := by
  intro w what w' hx
  obtain ⟨a, w₁, h⟩ := h w
  rw [h] at hx
  cases hx

theorem NeverPanics.pure (a : α) : NeverPanics (pure a : JoinM α) := .of_ok fun w => ⟨a, w, rfl⟩

theorem NeverPanics.ite (c : Prop) [Decidable c] {x y : JoinM α} (hx : NeverPanics x) (hy : NeverPanics y) :
    NeverPanics (if c then x else y) := by
  split <;> assumption

theorem NeverPanics.invoke (c : Call) (r : Except GoError α) : NeverPanics (invoke c r) := by
  intro w what w'
  cases r <;> rintro ⟨⟩

theorem NeverPanics.fail (msg : String) : NeverPanics (fail msg : JoinM α) := by
  rintro w what w' ⟨⟩

theorem NeverPanics.modify (f : World → World) : NeverPanics (modify f : JoinM Unit) :=
  .of_ok fun w => ⟨(), f w, rfl⟩

theorem NeverPanics.getOpts : NeverPanics getOpts := .of_ok fun w => ⟨w.opts, w, rfl⟩

end NoPanic

/-! ## The calls appended

A property of the calls made that is closed under sequencing is proved of each step once and carried to a
whole command by `Appends.bind`; `AppendsFrom.bind` lets the step after `x` rely on `x` having succeeded. -/

/-- A property of the calls a step appends, holding of no calls and closed under running one step after
another. -/
structure CallsInvariant where
  holds : List Call → Prop
  nil : holds []
  append : ∀ a b, holds a → holds b → holds (a ++ b)

/-- An invariant holds of calls each of which keeps it. -/
theorem CallsInvariant.holds_of_forall (I : CallsInvariant) {calls : List Call} (h : ∀ c ∈ calls, I.holds [c]) :
    I.holds calls := by
  induction calls with
  | nil => exact I.nil
  | cons c calls ih => exact I.append [c] calls (h c (.head _)) (ih fun c' hc' => h c' (.tail _ hc'))

/-- Every call made satisfies `Q`. -/
def everyCall (Q : Call → Prop) : CallsInvariant where
  holds calls := ∀ c ∈ calls, Q c
  nil := by simp
  append _ _ ha hb c hc := (List.mem_append.mp hc).elim (ha c) (hb c)

@[simp] theorem everyCall_holds {Q : Call → Prop} {calls : List Call} :
    (everyCall Q).holds calls ↔ ∀ c ∈ calls, Q c := Iff.rfl

theorem everyCall_singleton {Q : Call → Prop} {c : Call} : (everyCall Q).holds [c] ↔ Q c := by
  simp

/-- From `w`, `x` appends to the log calls that satisfy `I`. -/
def AppendsFrom (I : CallsInvariant) {α : Type} (x : JoinM α) (w : World) : Prop :=
  ∃ calls, (x w).state.log = w.log ++ calls ∧ I.holds calls

/-- On every exit and from every world, `x` appends to the log calls that satisfy `I`. -/
def Appends (I : CallsInvariant) {α : Type} (x : JoinM α) : Prop := ∀ w, AppendsFrom I x w

section Appends

variable {I : CallsInvariant} {α β γ : Type}

theorem AppendsFrom.bind {x : JoinM α} {f : α → JoinM β} {w : World} (hx : AppendsFrom I x w)
    (hf : ∀ a w₁, x w = .ok a w₁ → AppendsFrom I (f a) w₁) : AppendsFrom I (x >>= f) w := by
  obtain ⟨c₁, h₁, i₁⟩ := hx
  rw [AppendsFrom, EStateM.bind_apply]
  cases hr : x w with
  | ok a w₁ =>
      obtain ⟨c₂, h₂, i₂⟩ := hf a w₁ hr
      rw [hr, EStateM.Result.state_ok] at h₁
      exact ⟨c₁ ++ c₂, by rw [h₂, h₁, List.append_assoc], I.append _ _ i₁ i₂⟩
  | error e w₁ => exact ⟨c₁, by simpa [hr] using h₁, i₁⟩

/-- A step that returns without a call, to a known world. -/
theorem AppendsFrom.bind_of_ok {x : JoinM α} {f : α → JoinM β} {w w₁ : World} {a : α} (hx : x w = .ok a w₁)
    (hlog : w₁.log = w.log) (hf : AppendsFrom I (f a) w₁) : AppendsFrom I (x >>= f) w := by
  obtain ⟨calls, h, i⟩ := hf
  exact ⟨calls, by rw [EStateM.bind_apply, hx, h, hlog], i⟩

theorem AppendsFrom.mono {J : CallsInvariant} {x : JoinM α} {w : World}
    (hIJ : ∀ calls, I.holds calls → J.holds calls) (hx : AppendsFrom I x w) : AppendsFrom J x w :=
  let ⟨calls, h, i⟩ := hx
  ⟨calls, h, hIJ _ i⟩

theorem Appends.mono {J : CallsInvariant} {x : JoinM α} (hIJ : ∀ calls, I.holds calls → J.holds calls)
    (hx : Appends I x) : Appends J x :=
  fun w => (hx w).mono hIJ

/-- A step that makes only calls satisfying `Q` keeps every invariant each such call keeps. -/
theorem Appends.of_everyCall {Q : Call → Prop} {x : JoinM α} (hx : Appends (everyCall Q) x)
    (hQ : ∀ c, Q c → I.holds [c]) : Appends I x :=
  hx.mono fun _ h => I.holds_of_forall fun c hc => hQ c (everyCall_holds.mp h c hc)

theorem Appends.bind {x : JoinM α} {f : α → JoinM β} (hx : Appends I x) (hf : ∀ a, Appends I (f a)) :
    Appends I (x >>= f) :=
  fun w => (hx w).bind fun a w₁ _ => hf a w₁

/-- The same, with the first two steps already combined. -/
theorem Appends.bind_bind {x : JoinM α} {f : α → JoinM β} {g : β → JoinM γ} (hxf : Appends I (x >>= f))
    (hg : ∀ b, Appends I (g b)) : Appends I (x >>= fun a => f a >>= g) := by
  rw [← bind_assoc]
  exact hxf.bind hg

/-- A step that leaves the log as it is appends nothing. -/
theorem Appends.of_log {x : JoinM α} (h : ∀ w, (x w).state.log = w.log) : Appends I x :=
  fun w => ⟨[], by rw [h, List.append_nil], I.nil⟩

/-- What follows `getOpts` keeps `I` from a world when it keeps it given that world's receiver. -/
theorem Appends.getOpts_bind {f : Options → JoinM β} (w : World) (hf : Appends I (f w.opts)) :
    AppendsFrom I (getOpts >>= f) w :=
  hf w

theorem Appends.pure (a : α) : Appends I (pure a : JoinM α) := .of_log fun _ => rfl

theorem Appends.throw (e : Fault) : Appends I (throw e : JoinM α) := .of_log fun _ => rfl

theorem Appends.getOpts : Appends I getOpts := .of_log fun _ => rfl

theorem Appends.modifyOpts (f : Options → Options) : Appends I (modifyOpts f) := .of_log fun _ => rfl

theorem Appends.ite (c : Prop) [Decidable c] {x y : JoinM α} (hx : Appends I x) (hy : Appends I y) :
    Appends I (if c then x else y) := by
  split <;> assumption

theorem Appends.invoke (c : Call) (r : Except GoError α) (hc : I.holds [c]) : Appends I (invoke c r) :=
  fun w => ⟨[c], by cases r <;> rfl, hc⟩

/-- A call, and what follows it when it succeeds. -/
theorem AppendsFrom.invoke_bind {c : Call} {r : Except GoError α} {f : α → JoinM β} {w : World}
    (hc : I.holds [c]) (hf : ∀ a, r = .ok a → AppendsFrom I (f a) (w.record c)) :
    AppendsFrom I (invoke c r >>= f) w :=
  (Appends.invoke c r hc w).bind fun a _ h => by
    obtain ⟨hr, rfl⟩ := invoke_eq_ok.mp h
    exact hf a hr

theorem Appends.record (c : Call) (hc : I.holds [c]) : Appends I (modify (World.record c)) :=
  fun _ => ⟨[c], rfl, hc⟩

end Appends

/-! ## A sample hub and a sample join -/

/-- A hub with no `cluster-info` config map in `kube-public`: `GetAPIServer` over the insecure client fails
with `NotFound` and returns the empty string, `GetCACert` falls back to `kube-root-ca.crt`, and every other
call succeeds. -/
def hubWithoutClusterInfo : Env where
  getVersionBundle _ := .ok ⟨"v0.7.0", "v0.7.0", "v0.7.0", "v0.7.0"⟩
  readFile _ := .ok [0x43, 0x46]
  createClientFromClientcmdapiv1Config _ := .ok ()
  getAPIServer
    | .ofKubeconfig _ => ("", some (.status "NotFound" "configmaps cluster-info not found"))
    | .ofFactory => ("https://10.0.0.1:6443", none)
  getCACert _ := .ok [0x43, 0x41]
  kubernetesClientSet := .ok ()
  validAPIHost _ := true
  runChecks _ := .ok ()
  marshal _ := .ok "apiVersion: v1"
  getClients := .ok ()
  applyDirectly _ _ _ := .ok []
  applyDeployments _ _ _ := .ok []
  waitUntilCRDReady _ _ := .ok ()
  applyCustomResources _ _ _ := .ok []
  toRESTConfig := .ok ()
  newForConfig := .ok ()
  watch _ := .ok []
  getSpinnerPodStatus _ := ""
  writeOutput _ _ := .ok ()

/-- `clusteradm join --hub-token tok-123 --hub-apiserver https://hub.example:6443 --cluster-name cluster1`. -/
def sampleJoin : Options where
  dryRun := false
  timeout := 300
  values := {}
  token := "tok-123"
  hubAPIServer := "https://hub.example:6443"
  caFile := ""
  clusterName := "cluster1"
  outputFile := ""
  wait := false
  registry := "quay.io/open-cluster-management"
  bundleVersion := "default"
  forceHubInClusterEndpointLookup := false
  hubInClusterEndpoint := ""
  hubCADate := none
  hubConfig := none

end Clusteradm.Join
