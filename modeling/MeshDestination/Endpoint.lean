import MeshDestination.Service
import Std.Data.TreeMap

/-!
# Endpoints

A backend address with the pod and the workload behind it, and the state of a service port as a set
of such addresses.
-/

namespace MeshDestination

open Net

/-- A pod and its top-level workload. The kind is in lower case, `pod` for a pod that is its own
workload. -/
structure Owner where
  ns : String
  pod : String
  kind : String
  name : String
  deriving DecidableEq

/-- The text of an owner: its pod. -/
def Owner.text (o : Owner) : String := o.ns ++ "/" ++ o.pod

/-- A backend address and its owner. One without an owner is outside the mesh. -/
structure Endpoint where
  addr : SocketAddr
  owner : Option Owner
  deriving DecidableEq

/-- Whether an endpoint's pod is known. -/
def Endpoint.isMeshed (e : Endpoint) : Bool := e.owner.isSome

/-- A set of endpoints, at most one for each address. -/
abbrev AddressMap := Std.TreeMap SocketAddr (Option Owner)

/-- The endpoints of a set, ascending by address. -/
def AddressMap.endpoints (m : AddressMap) : List Endpoint :=
  m.toList.map fun (addr, owner) => ⟨addr, owner⟩

/-- The state of a service port as it is reported. -/
structure PortSnapshot where
  service : ServiceRef
  port : Port
  targetPort : TargetPort
  /-- Ascending by address. -/
  endpoints : List Endpoint
  /-- The version of the endpoints resource that the addresses come from. -/
  resourceVersion : Option String
  /-- Whether the service resource is present. -/
  exists_ : Bool
  deriving DecidableEq

end MeshDestination
