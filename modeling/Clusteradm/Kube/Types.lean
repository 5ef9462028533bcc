import Clusteradm.Go.Effect

/-!
# Kubernetes data the join command reads and writes

The kubeconfig of `clientcmd/api/v1`, the pod conditions of `core/v1`, the conditions of `meta/v1`, and the
events of a watch. Only the fields a modelled function reads or writes are kept: a `Cluster` has its server,
its TLS switch and its CA data, and a `Pod` its condition list.
-/

namespace Clusteradm

/-! ## `clientcmdapiv1`: the kubeconfig -/

/-- `clientcmdapiv1.Cluster`. -/
structure Cluster where
  server : String
  insecureSkipTLSVerify : Bool
  certificateAuthorityData : Bytes
deriving DecidableEq, Repr

/-- `clientcmdapiv1.NamedCluster`. -/
structure NamedCluster where
  name : String
  cluster : Cluster
deriving DecidableEq, Repr

/-- `clientcmdapiv1.AuthInfo`: a bearer token. -/
structure AuthInfo where
  token : String
deriving DecidableEq, Repr

/-- `clientcmdapiv1.NamedAuthInfo`. -/
structure NamedAuthInfo where
  name : String
  authInfo : AuthInfo
deriving DecidableEq, Repr

/-- `clientcmdapiv1.Context`. -/
structure Context where
  cluster : String
  authInfo : String
  defaultNamespace : String
deriving DecidableEq, Repr

/-- `clientcmdapiv1.NamedContext`. -/
structure NamedContext where
  name : String
  context : Context
deriving DecidableEq, Repr

/-- `clientcmdapiv1.Config`. A value, so Go's `DeepCopy` of it is the value itself. -/
structure Config where
  clusters : List NamedCluster
  authInfos : List NamedAuthInfo
  contexts : List NamedContext
  currentContext : String
deriving DecidableEq, Repr

/-- `cfg.Clusters[0].Cluster = f(cfg.Clusters[0].Cluster)`; `none` when there is no cluster entry, where Go
panics with an index out of range. -/
def Config.modifyCluster0 (f : Cluster → Cluster) (cfg : Config) : Option Config :=
  match cfg.clusters with
  | [] => none
  | c :: cs => some { cfg with clusters := { c with cluster := f c.cluster } :: cs }

/-! ## Conditions -/

/-- `corev1.PodCondition`. -/
structure PodCondition where
  type : String
  status : String
  reason : String
  message : String
deriving DecidableEq, Repr, Inhabited

/-- `metav1.Condition`. -/
structure Condition where
  type : String
  status : String
  reason : String
  message : String
deriving DecidableEq, Repr, Inhabited

/-- `corev1.Pod`, by its `Status.Conditions`. -/
structure Pod where
  conditions : List PodCondition
deriving DecidableEq, Repr

/-! ## Watches -/

/-- The `runtime.Object` of an event: a pod, or an object of another kind. -/
inductive Object
  | pod (p : Pod)
  | other (kind : String)
deriving DecidableEq, Repr

/-- `watch.Event`, by its object: no modelled function reads its `Type`. -/
structure Event where
  object : Object
deriving DecidableEq, Repr

/-- A pod watch: the namespace and the `metav1.ListOptions` it is opened with. -/
structure WatchRequest where
  podNamespace : String
  labelSelector : String
  timeoutSeconds : Int
deriving DecidableEq, Repr

/-- What the result channel of a watch delivers: an event, or a failure of the stream itself. The channel
closing is the end of the list. -/
inductive StreamItem
  | event (e : Event)
  | failure (e : GoError)
deriving DecidableEq, Repr

end Clusteradm
