import MeshDestination.Cluster.ProfileSpec

/-!
# Reading resources

A resource of any of the five kinds that the index follows, and its JSON form. The kinds of the
cluster itself state their kind and version, and a null field of theirs counts as missing.
-/

namespace MeshDestination.Cluster

/-- The kinds of resource that are followed, in the order in which they are waited for. -/
inductive Kind where
  | service
  | endpoints
  | pod
  | replicaSet
  | serviceProfile
  deriving DecidableEq

/-- Every kind. -/
def Kind.all : List Kind := [.service, .endpoints, .pod, .replicaSet, .serviceProfile]

/-- The name of a kind. -/
def Kind.name : Kind → String
  | .service => "Service"
  | .endpoints => "Endpoints"
  | .pod => "Pod"
  | .replicaSet => "ReplicaSet"
  | .serviceProfile => "ServiceProfile"

/-- The kind of a name. -/
def Kind.ofName? (name : String) : Option Kind :=
  Kind.all.find? (·.name == name)

/-- A resource. -/
inductive Resource where
  | service (o : ServiceObject)
  | endpoints (o : EndpointsObject)
  | pod (o : PodObject)
  | replicaSet (o : ReplicaSetObject)
  | serviceProfile (o : ServiceProfileObject)

/-- What a resource says of itself. -/
def Resource.meta_ : Resource → ObjectMeta
  | .service o => o.meta_
  | .endpoints o => o.meta_
  | .pod o => o.meta_
  | .replicaSet o => o.meta_
  | .serviceProfile o => o.meta_

/-! ## Parts of an object -/

/-- Reads a member of an object. It may be missing or null; what is not an object has no members. -/
def member? (name : String) (read : Json → Option α) : Json → Option (Option α)
  | .obj fields => Json.optional read (Json.lookup name fields)
  | _ => none

/-- Checks that the members of the given names are texts where they are set. -/
def textMembers (names : List String) (j : Json) : Option Unit :=
  names.forM fun name => (member? name Json.text? j).map fun _ => ()

/-- Reads an object from names to texts. -/
def textMap? : Json → Option (List (String × String))
  | .obj fields => fields.mapM fun (n, j) => j.text?.map fun t => (n, t)
  | _ => none

/-- Reads a member that is a list; without one it is empty. -/
def listMember? (name : String) (read : Json → Option α) (j : Json) : Option (List α) :=
  (member? name (list? read) j).map (·.getD [])

/-- Reads the owner that a resource names. -/
def OwnerRef.ofJson? (j : Json) : Option OwnerRef := do
  textMembers ["apiVersion", "uid"] j
  let kind ← member? "kind" Json.text? j
  let name ← member? "name" Json.text? j
  let _ ← member? "controller" Json.bool? j
  let _ ← member? "blockOwnerDeletion" Json.bool? j
  some { kind := kind.getD "", name := name.getD "" }

/-- Reads what a resource says of itself. -/
def ObjectMeta.ofJson? (j : Json) : Option ObjectMeta := do
  textMembers ["generateName", "selfLink", "uid", "creationTimestamp", "deletionTimestamp"] j
  let name ← member? "name" Json.text? j
  let ns ← member? "namespace" Json.text? j
  let resourceVersion ← member? "resourceVersion" Json.text? j
  let labels ← member? "labels" textMap? j
  let _ ← member? "annotations" textMap? j
  let _ ← listMember? "finalizers" Json.text? j
  let owners ← listMember? "ownerReferences" OwnerRef.ofJson? j
  some { name, ns, resourceVersion, labels := labels.getD [], owners }

/-- Reads the target of a declared port. -/
def IntOrText.ofJson? : Json → Option IntOrText
  | .str s => some (.text s)
  | j => j.int32?.map .int

/-- Reads a declared port. -/
def ServicePortSpec.ofJson? (j : Json) : Option ServicePortSpec := do
  textMembers ["name", "protocol", "appProtocol"] j
  let port ← member? "port" Json.int32? j
  let targetPort ← member? "targetPort" IntOrText.ofJson? j
  let _ ← member? "nodePort" Json.int32? j
  some { port := port.getD 0, targetPort }

/-- Reads a reference to what serves an address. -/
def TargetRef.ofJson? (j : Json) : Option TargetRef := do
  textMembers ["apiVersion", "fieldPath", "resourceVersion", "uid"] j
  let kind ← member? "kind" Json.text? j
  let ns ← member? "namespace" Json.text? j
  let name ← member? "name" Json.text? j
  some { kind, ns, name }

/-- Reads an address. -/
def EndpointAddress.ofJson? (j : Json) : Option EndpointAddress := do
  textMembers ["hostname", "nodeName"] j
  let ip ← member? "ip" Json.text? j
  let targetRef ← member? "targetRef" TargetRef.ofJson? j
  some { ip := ip.getD "", targetRef }

/-- Reads a port of a subset. -/
def EndpointPort.ofJson? (j : Json) : Option EndpointPort := do
  textMembers ["protocol", "appProtocol"] j
  let name ← member? "name" Json.text? j
  let port ← member? "port" Json.int32? j
  some { name, port := port.getD 0 }

/-- Reads a subset. Addresses that are not ready are read and dropped. -/
def EndpointSubset.ofJson? (j : Json) : Option EndpointSubset := do
  let addresses ← listMember? "addresses" EndpointAddress.ofJson? j
  let _ ← listMember? "notReadyAddresses" EndpointAddress.ofJson? j
  let ports ← listMember? "ports" EndpointPort.ofJson? j
  some { addresses, ports }

/-! ## Objects -/

/-- Checks the kind and version that an object states, where it states them. -/
def statedAs (apiVersion kind : String) (j : Json) : Option Unit :=
  let agrees (name expected : String) : Option Unit :=
    match j.field? name with
    | none => some ()
    | some v => if v.text? == some expected then some () else none
  match j with
  | .obj _ => do
    agrees "apiVersion" apiVersion
    agrees "kind" kind
  | _ => none

/-- Reads the self-description of an object; without one it is empty. -/
def metadata? (j : Json) : Option ObjectMeta :=
  (member? "metadata" ObjectMeta.ofJson? j).map (·.getD {})

/-- Reads a service. -/
def ServiceObject.ofJson? (j : Json) : Option ServiceObject := do
  statedAs "v1" "Service" j
  let meta_ ← metadata? j
  let ports ← member? "spec" (listMember? "ports" ServicePortSpec.ofJson?) j
  some { meta_, ports := ports.getD [] }

/-- Reads the endpoints of a service. -/
def EndpointsObject.ofJson? (j : Json) : Option EndpointsObject := do
  statedAs "v1" "Endpoints" j
  let meta_ ← metadata? j
  let subsets ← listMember? "subsets" EndpointSubset.ofJson? j
  some { meta_, subsets }

/-- Reads the address and phase of a pod's status. -/
def podStatus? (j : Json) : Option (Option String × Option String) := do
  textMembers ["hostIP", "message", "reason", "nominatedNodeName", "qosClass"] j
  let ip ← member? "podIP" Json.text? j
  let phase ← member? "phase" Json.text? j
  some (ip, phase)

/-- Reads a pod. -/
def PodObject.ofJson? (j : Json) : Option PodObject := do
  statedAs "v1" "Pod" j
  let meta_ ← metadata? j
  let status ← member? "status" podStatus? j
  let (ip, phase) := status.getD (none, none)
  some { meta_, ip, phase }

/-- Reads a replica set. -/
def ReplicaSetObject.ofJson? (j : Json) : Option ReplicaSetObject := do
  statedAs "apps/v1" "ReplicaSet" j
  let meta_ ← metadata? j
  some { meta_ }

/-- Reads a service profile. Its two parts must be there. -/
def ServiceProfileObject.ofJson? (j : Json) : Option ServiceProfileObject :=
  match j.record? ["metadata", "spec"] with
  | some [metadata, spec] => do
    let meta_ ← Json.required ObjectMeta.ofJson? metadata
    let spec ← Json.required ServiceProfileSpec.ofJson? spec
    some { meta_, spec }
  | _ => none

/-- Reads a resource of a kind. -/
def Resource.ofJson? (kind : Kind) (j : Json) : Option Resource :=
  match kind with
  | .service => (ServiceObject.ofJson? j).map .service
  | .endpoints => (EndpointsObject.ofJson? j).map .endpoints
  | .pod => (PodObject.ofJson? j).map .pod
  | .replicaSet => (ReplicaSetObject.ofJson? j).map .replicaSet
  | .serviceProfile => (ServiceProfileObject.ofJson? j).map .serviceProfile

end MeshDestination.Cluster
