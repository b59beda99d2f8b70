import MeshDestination.Cluster.Object
import MeshDestination.Endpoint
import MeshDestination.Text.Letters

/-!
# Pods and their workloads

The pods and replica sets of each namespace. They resolve a backend address to the pod that has it
and to the top-level workload behind that pod. A namespace is kept while it has a pod or a replica
set.
-/

namespace MeshDestination

open Net Cluster Std

/-- What is known of a pod. -/
structure PodState where
  ip : Option Ip
  phase : Option String
  owners : List OwnerRef
  /-- The control plane that the pod's proxy belongs to. -/
  controlPlaneNs : Option String
  deriving DecidableEq

/-- The label that names the control plane of a pod's proxy. -/
def controlPlaneLabel : String := "linkerd.io/control-plane-ns"

/-- What a pod resource says of its pod. An address that does not read as one counts as none. -/
def PodState.ofObject (o : PodObject) : PodState where
  ip := o.ip.bind Ip.ofText?
  phase := o.phase
  owners := o.meta_.owners
  controlPlaneNs := o.meta_.label? controlPlaneLabel

/-- The pods and replica sets of one namespace. -/
structure PodNamespace where
  pods : TreeMap String PodState := {}
  /-- The name of the pod that was last given an address. -/
  podsByIp : TreeMap Ip String := {}
  /-- The owners that each replica set names. -/
  replicaSets : TreeMap String (List OwnerRef) := {}

namespace PodNamespace

/-- Whether nothing keeps the namespace. -/
def isEmpty (n : PodNamespace) : Bool := n.pods.isEmpty && n.replicaSets.isEmpty

/-- Forgets that a pod has an address, unless the address is another pod's by now. -/
def forgetIp (n : PodNamespace) (ip : Ip) (name : String) : PodNamespace :=
  if n.podsByIp[ip]? = some name then { n with podsByIp := n.podsByIp.erase ip } else n

/-- The address that a pod had and, with its new state, has no longer. -/
def lostIp? (n : PodNamespace) (name : String) (pod : PodState) : Option Ip :=
  (n.pods[name]?.bind (·.ip)).filter fun ip => some ip ≠ pod.ip

/-- Records a pod. -/
def insertPod (n : PodNamespace) (name : String) (pod : PodState) : PodNamespace :=
  let lost := n.lostIp? name pod
  let n := { n with pods := n.pods.insert name pod }
  let n := match lost with
    | some ip => n.forgetIp ip name
    | none => n
  match pod.ip with
  | some ip => { n with podsByIp := n.podsByIp.insert ip name }
  | none => n

/-- Forgets a pod. -/
def erasePod (n : PodNamespace) (name : String) : PodNamespace :=
  match n.pods[name]? with
  | none => n
  | some pod =>
    let n := { n with pods := n.pods.erase name }
    match pod.ip with
    | some ip => n.forgetIp ip name
    | none => n

/-- The top-level workload of a pod, as kind and name. A pod whose owner is not unique is its own
workload; a replica set gives way to its deployment. -/
def workload (n : PodNamespace) (name : String) (pod : PodState) : String × String :=
  match pod.owners with
  | [owner] =>
    if owner.kind = "ReplicaSet" then
      match n.replicaSets[owner.name]?.bind List.head? with
      | some above =>
        if above.kind = "Deployment" then ("deployment", above.name) else ("replicaset", owner.name)
      | none => ("replicaset", owner.name)
    else (Text.lowercase owner.kind, owner.name)
  | _ => ("pod", name)

end PodNamespace

/-- A pod as it is listed. -/
structure PodSummary where
  ns : String
  name : String
  ip : Option Ip
  phase : Option String
  ownerKind : String
  ownerName : String
  controlPlaneNs : Option String
  deriving DecidableEq

/-- The pods and replica sets of all namespaces. -/
structure Pods where
  namespaces : TreeMap String PodNamespace := {}

namespace Pods

/-- The namespace of a name; one that is not kept is empty. -/
def get (p : Pods) (ns : String) : PodNamespace := p.namespaces.getD ns {}

/-- Sets a namespace that has something to keep. -/
def insert (p : Pods) (ns : String) (n : PodNamespace) : Pods :=
  ⟨p.namespaces.insert ns n⟩

/-- Sets a namespace, or drops it when nothing keeps it. -/
def keep (p : Pods) (ns : String) (n : PodNamespace) : Pods :=
  ⟨if n.isEmpty then p.namespaces.erase ns else p.namespaces.insert ns n⟩

/-- The addresses whose owner may change when a pod takes a new state: the one it loses and the one
it has. -/
def affectedIps (p : Pods) (ns name : String) (pod : PodState) : List Ip :=
  ((p.get ns).lostIp? name pod).toList ++ pod.ip.toList

/-- Records a pod. -/
def insertPod (p : Pods) (ns name : String) (pod : PodState) : Pods :=
  p.insert ns ((p.get ns).insertPod name pod)

/-- The pod of a name. -/
def pod? (p : Pods) (ns name : String) : Option PodState := (p.get ns).pods[name]?

/-- Forgets a pod. -/
def erasePod (p : Pods) (ns name : String) : Pods :=
  match p.pod? ns name with
  | some _ => p.keep ns ((p.get ns).erasePod name)
  | none => p

/-- Records the owners of a replica set. -/
def insertReplicaSet (p : Pods) (ns name : String) (owners : List OwnerRef) : Pods :=
  let n := p.get ns
  p.insert ns { n with replicaSets := n.replicaSets.insert name owners }

/-- Makes sure that a namespace has an entry. -/
def touch (p : Pods) (ns : String) : Pods := p.insert ns (p.get ns)

/-- Forgets a replica set. -/
def eraseReplicaSet (p : Pods) (ns name : String) : Pods :=
  match p.namespaces[ns]? with
  | some n => p.keep ns { n with replicaSets := n.replicaSets.erase name }
  | none => p

/-- The owner that a pod of a namespace stands for. -/
def owner (p : Pods) (ns name : String) (pod : PodState) : Owner :=
  let (kind, workload) := (p.get ns).workload name pod
  { ns, pod := name, kind, name := workload }

/-- The pod that a reference names, as namespace, name and state. Without a namespace of its own the
reference stays in the one given. -/
def referenced? (p : Pods) (ns : String) (ref : TargetRef) :
    Option (String × String × PodState) :=
  if ref.kind = some "Pod" then do
    let podNs := ref.ns.getD ns
    let name ← ref.name
    let pod ← p.pod? podNs name
    some (podNs, name, pod)
  else none

/-- The pod of a namespace that has an address. -/
def atIp? (p : Pods) (ns : String) (ip : Ip) : Option (String × String × PodState) := do
  let name ← (p.get ns).podsByIp[ip]?
  let pod ← p.pod? ns name
  some (ns, name, pod)

/-- The owner of an address: that of the pod it refers to, or else of the pod that has the address.
-/
def resolve (p : Pods) (ns : String) (ip : Ip) (ref : Option TargetRef) : Option Owner :=
  ((ref.bind (p.referenced? ns)).or (p.atIp? ns ip)).map fun (podNs, name, pod) =>
    p.owner podNs name pod

/-- The pods of a namespace, ascending by name. -/
def listNamespace (n : PodNamespace) (ns : String) : List PodSummary :=
  n.pods.toList.map fun (name, pod) =>
    let (ownerKind, ownerName) := n.workload name pod
    { ns, name, ip := pod.ip, phase := pod.phase, ownerKind, ownerName,
      controlPlaneNs := pod.controlPlaneNs }

/-- The pods of one namespace or of all, ascending by namespace and name. -/
def list (p : Pods) (ns : Option String) : List PodSummary :=
  p.namespaces.toList.flatMap fun (podNs, n) =>
    if ns.getD podNs = podNs then listNamespace n podNs else []

/-- How many pods each namespace that is kept has. -/
def sizes (p : Pods) : List (String × Nat) :=
  p.namespaces.toList.map fun (ns, n) => (ns, n.pods.size)

end Pods

end MeshDestination
