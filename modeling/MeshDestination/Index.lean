import MeshDestination.Cluster.Resource
import MeshDestination.Index.Profiles
import MeshDestination.Index.Service
import MeshDestination.Index.Subscription
import MeshDestination.Profile.Resource

/-!
# The index

All that is known of a cluster's services, pods and profiles, with the subscriptions to it. Every
operation computes a new state and then hands each subscription what has changed on its topic.
States that no resource and no subscription needs are dropped.
-/

namespace MeshDestination

open Net Cluster Std

/-- A port of a service. -/
abbrev PortRef := ServiceRef × Port

/-- The state of a cluster and the subscriptions to it. -/
structure Index where
  cluster : ClusterInfo := {}
  services : TreeMap ServiceRef ServiceState := {}
  pods : Pods := {}
  profiles : Profiles := {}
  endpointSubs : Subscriptions PortRef EndpointsEvent := {}
  profileSubs : Subscriptions ServiceRef (Option Profile) := {}

/-- Why a resource is not taken. -/
inductive Fault where
  /-- It has no name. -/
  | unnamed
  /-- A duration in it is out of range. -/
  | durationOverflow
  deriving DecidableEq

namespace Index

/-! ## Looking up -/

/-- The state of a service; a service that is not kept has an empty one. -/
def service (ix : Index) (s : ServiceRef) : ServiceState := ix.services.getD s {}

/-- The kept state of a service port. -/
def port? (ix : Index) (topic : PortRef) : Option PortState :=
  ix.services[topic.1]?.bind (·.ports[topic.2]?)

/-- Whether a service port is listened to. -/
def watched (ix : Index) (s : ServiceRef) (p : Port) : Bool := ix.endpointSubs.watches (s, p)

/-- The report of a service port, whether or not its state is kept. -/
def snapshot (ix : Index) (s : ServiceRef) (p : Port) : PortSnapshot :=
  (ix.service s).snapshot s ix.pods p

/-- The reports of all service ports whose state is kept, ascending by service and port. -/
def snapshots (ix : Index) : List PortSnapshot :=
  ix.services.toList.flatMap fun (s, state) =>
    state.ports.toList.map fun (p, ps) => ps.snapshot s p

/-- How many service ports have a state. -/
def portCount (ix : Index) : Nat :=
  (ix.services.toList.flatMap fun (_, state) => state.ports.toList).length

/-! ## Changing services -/

/-- What listeners to a service port are told when a state of the index gives way to another. -/
def changesAt (before after : Index) (topic : PortRef) : List EndpointsEvent :=
  match before.port? topic, after.port? topic with
  | some old, some new => PortState.changes old new
  | _, _ => []

/-- Hands every subscription to endpoints what changed since an earlier state. -/
def publishSince (ix before : Index) : Index :=
  { ix with endpointSubs := ix.endpointSubs.publish (changesAt before ix) }

/-- Sets the state of a service. -/
def setService (ix : Index) (s : ServiceRef) (state : ServiceState) : Index :=
  { ix with services := ix.services.insert s state }

/-- Computes a service anew from its state with new resources. -/
def refreshService (ix : Index) (s : ServiceRef) (state : ServiceState) : Index :=
  (ix.setService s (state.refresh s.ns ix.pods (ix.watched s))).publishSince ix

/-- Drops the services that no resource and no subscription keeps. -/
def collect (ix : Index) : Index :=
  { ix with services := ix.services.filter fun s state => state.isKept (ix.watched s) }

/-- Computes a service anew if it is in a namespace and has one of some addresses. -/
def reresolveService (ix : Index) (ns : String) (ips : List Ip) (s : ServiceRef)
    (state : ServiceState) : ServiceState :=
  match state.backends with
  | some b => if s.ns = ns && b.mentions ips then state.refresh ns ix.pods (ix.watched s) else state
  | none => state

/-- Computes anew the services of a namespace that have one of some addresses. -/
def reresolve (ix : Index) (ns : String) (ips : List Ip) : Index :=
  { ix with services := ix.services.map (ix.reresolveService ns ips) }.publishSince ix

/-- Records a service resource. -/
def applyService (ix : Index) (s : ServiceRef) (o : ServiceObject) : Index :=
  ix.refreshService s { ix.service s with declared := some (declaredPorts o) }

/-- Forgets a service resource. Ports that are still listened to stay, without endpoints. -/
def deleteService (ix : Index) (s : ServiceRef) : Index :=
  match ix.services[s]? with
  | some state =>
    let told := (ix.setService s state.withoutResource).publishSince ix
    (told.setService s ((told.service s).dropUnwatched (told.watched s))).collect
  | none => ix.collect

/-- Records an endpoints resource. -/
def applyEndpoints (ix : Index) (s : ServiceRef) (o : EndpointsObject) : Index :=
  ix.refreshService s { ix.service s with backends := some (Backends.ofObject o) }

/-- Forgets an endpoints resource. -/
def deleteEndpoints (ix : Index) (s : ServiceRef) : Index :=
  match ix.services[s]? with
  | some state => (ix.refreshService s { state with backends := none }).collect
  | none => ix.collect

/-! ## Changing pods -/

/-- Records a pod. -/
def applyPod (ix : Index) (ns name : String) (pod : PodState) : Index :=
  { ix with pods := ix.pods.insertPod ns name pod }.reresolve ns (ix.pods.affectedIps ns name pod)

/-- Forgets a pod. -/
def deletePod (ix : Index) (ns name : String) : Index :=
  let ips := (ix.pods.pod? ns name).bind (·.ip) |>.toList
  { ix with pods := ix.pods.erasePod ns name }.reresolve ns ips

/-- Records a replica set. -/
def applyReplicaSet (ix : Index) (ns name : String) (owners : List OwnerRef) : Index :=
  { ix with pods := ix.pods.insertReplicaSet ns name owners }

/-- Forgets a replica set. -/
def deleteReplicaSet (ix : Index) (ns name : String) : Index :=
  { ix with pods := ix.pods.eraseReplicaSet ns name }

/-! ## Changing profiles -/

/-- Moves to changed profiles and hands every subscription its new profile. -/
def setProfiles (ix : Index) (key : ObjectKey) (profiles : Profiles) : Index :=
  { ix with
    profiles
    profileSubs := ix.profileSubs.publish (Profiles.changes ix.profiles profiles ix.cluster key) }

/-- Records the profile of a resource. -/
def applyProfile (ix : Index) (key : ObjectKey) (profile : Profile) : Index :=
  ix.setProfiles key (ix.profiles.insert ix.cluster key profile)

/-- Forgets the profile of a resource. -/
def deleteProfile (ix : Index) (key : ObjectKey) : Index :=
  if ix.profiles.resources.contains key then
    ix.setProfiles key (ix.profiles.erase ix.cluster key)
  else ix

/-! ## Resources of any kind -/

/-- Records a named resource. -/
def applyNamed (ix : Index) (ns name : String) : Resource → Index × Option Fault
  | .service o => (ix.applyService ⟨ns, name⟩ o, none)
  | .endpoints o => (ix.applyEndpoints ⟨ns, name⟩ o, none)
  | .pod o => (ix.applyPod ns name (PodState.ofObject o), none)
  | .replicaSet o => (ix.applyReplicaSet ns name o.meta_.owners, none)
  | .serviceProfile o =>
    match Profile.ofSpec o.spec with
    | .ok profile => (ix.applyProfile ⟨ns, name⟩ profile, none)
    | .error _ => (ix, some .durationOverflow)

/-- Refuses a resource without a name. A replica set still makes its namespace known. -/
def applyUnnamed (ix : Index) (ns : String) : Resource → Index × Option Fault
  | .replicaSet _ => ({ ix with pods := ix.pods.touch ns }, some .unnamed)
  | _ => (ix, some .unnamed)

/-- Records a resource. -/
def apply (ix : Index) (r : Resource) : Index × Option Fault :=
  match r.meta_.name with
  | some name => ix.applyNamed r.meta_.namespaceName name r
  | none => ix.applyUnnamed r.meta_.namespaceName r

/-- Forgets a resource. -/
def delete (ix : Index) (kind : Kind) (ns name : String) : Index :=
  match kind with
  | .service => ix.deleteService ⟨ns, name⟩
  | .endpoints => ix.deleteEndpoints ⟨ns, name⟩
  | .pod => ix.deletePod ns name
  | .replicaSet => ix.deleteReplicaSet ns name
  | .serviceProfile => ix.deleteProfile ⟨ns, name⟩

/-! ## Subscribing -/

/-- A subscription as its subscriber knows it. -/
structure Receipt where
  /-- Its number on its topic. -/
  number : Nat
  /-- Its number among all subscriptions of its kind. -/
  ticket : Nat
  deriving DecidableEq

/-- Subscribes to a service port. -/
def subscribeEndpoints (ix : Index) (s : ServiceRef) (p : Port) : Index × Receipt :=
  let ix := ix.collect
  let state := ix.service s
  let ps := state.port s.ns ix.pods p
  let subs :=
    ix.endpointSubs.subscribe (s, p) ps.nextNumber ix.cluster.queueCapacity ps.initialEvents
  let next := { ps with nextNumber := ps.nextNumber + 1 }
  let state := { state with ports := state.ports.insert p next }
  ({ ix.setService s state with endpointSubs := subs },
    ⟨ps.nextNumber, ix.endpointSubs.nextTicket⟩)

/-- Subscribes to the profile of a service. -/
def subscribeProfile (ix : Index) (s : ServiceRef) : Index × Receipt :=
  let profiles := ix.profiles.collect ix.profileSubs.watches
  let state := profiles.state ix.cluster s
  let subs := ix.profileSubs.subscribe s state.nextNumber ix.cluster.queueCapacity [state.current]
  let services := profiles.services.insert s { state with nextNumber := state.nextNumber + 1 }
  ({ ix with profiles := { profiles with services }, profileSubs := subs },
    ⟨state.nextNumber, ix.profileSubs.nextTicket⟩)

end Index

end MeshDestination
