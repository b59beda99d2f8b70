import MeshDestination.Index.Pods
import MeshDestination.Index.Port

/-!
# Services

What the resources of a service say, and the state of each of its ports that is declared or listened
to.
-/

namespace MeshDestination

open Net Cluster Std

/-- The ready addresses behind a service. -/
structure Backends where
  subsets : List EndpointSubset
  resourceVersion : Option String

namespace Backends

/-- The backends that an endpoints resource lists. -/
def ofObject (o : EndpointsObject) : Backends := ⟨o.subsets, o.meta_.resourceVersion⟩

/-- The number of a subset's port, if it is a service port's target. -/
def numberOf? (target : TargetPort) (p : EndpointPort) : Option Port :=
  match Port.ofInt? p.port with
  | some port => if target.isMetBy p.name port then some port else none
  | none => none

/-- The first port of a subset that is a service port's target. -/
def portOf? (subset : EndpointSubset) (target : TargetPort) : Option Port :=
  subset.ports.findSome? (numberOf? target)

/-- The endpoints that a subset's addresses are on one port. Texts that are no addresses are left
out. -/
def endpointsOf (subset : EndpointSubset) (port : Port) (ns : String) (pods : Pods) :
    List (SocketAddr × Option Owner) :=
  subset.addresses.filterMap fun a =>
    (Ip.ofText? a.ip).map fun ip => (⟨ip, port.number, 0⟩, pods.resolve ns ip a.targetRef)

/-- The endpoints that serve a target port, each with its owner. Of entries with one address the
last counts. -/
def addrs (b : Backends) (ns : String) (target : TargetPort) (pods : Pods) : AddressMap :=
  (b.subsets.flatMap fun subset =>
    match portOf? subset target with
    | some port => endpointsOf subset port ns pods
    | none => []).foldl (fun m (addr, owner) => m.insert addr owner) {}

/-- Whether one of the addresses is among some. -/
def mentions (b : Backends) (ips : List Ip) : Bool :=
  b.subsets.any fun subset =>
    subset.addresses.any fun a =>
      match Ip.ofText? a.ip with
      | some ip => ips.contains ip
      | none => false

end Backends

/-- The target of a declared port: the port itself unless another valid port or a name is given. A
text that reads as a port is one. -/
def targetOf (port : Port) : Option IntOrText → TargetPort
  | some (.int n) => .number ((Port.ofInt? n).getD port)
  | some (.text s) =>
    if s.isEmpty then .number port
    else
      match Port.ofText? s with
      | some p => .number p
      | none => .name s
  | none => .number port

/-- Records a declared port with its target. -/
def declare (m : TreeMap Port TargetPort) (d : ServicePortSpec) : TreeMap Port TargetPort :=
  match Port.ofInt? d.port with
  | some port => m.insert port (targetOf port d.targetPort)
  | none => m

/-- The ports that a service resource declares, each with its target. -/
def declaredPorts (o : ServiceObject) : TreeMap Port TargetPort := o.ports.foldl declare {}

/-- A service: what its resources say, as far as they are present, and its ports. -/
structure ServiceState where
  declared : Option (TreeMap Port TargetPort) := none
  backends : Option Backends := none
  ports : TreeMap Port PortState := {}

namespace ServiceState

/-- Whether the service resource is present. -/
def exists_ (s : ServiceState) : Bool := s.declared.isSome

/-- Whether a port is declared. -/
def declares (s : ServiceState) (port : Port) : Bool :=
  match s.declared with
  | some ports => ports.contains port
  | none => false

/-- The declared target of a port; a port that is not declared leads to itself. -/
def targetPort (s : ServiceState) (port : Port) : TargetPort :=
  (s.declared.bind (·[port]?)).getD (.number port)

/-- The endpoints behind a target port. Without the service resource there are none. -/
def addrs (s : ServiceState) (ns : String) (target : TargetPort) (pods : Pods) : AddressMap :=
  match s.declared, s.backends with
  | some _, some b => b.addrs ns target pods
  | _, _ => {}

/-- The version of the resource that the endpoints come from. -/
def resourceVersion (s : ServiceState) : Option String :=
  match s.declared, s.backends with
  | some _, some b => b.resourceVersion
  | _, _ => none

/-- A port's state as the present resources have it, with the number of its next subscription. -/
def portState (s : ServiceState) (ns : String) (pods : Pods) (port : Port) (nextNumber : Nat) :
    PortState where
  targetPort := s.targetPort port
  addrs := s.addrs ns (s.targetPort port) pods
  resourceVersion := s.resourceVersion
  exists_ := s.exists_
  nextNumber := nextNumber

/-- The kept state of a port, or else its state as the present resources have it. -/
def port (s : ServiceState) (ns : String) (pods : Pods) (port : Port) : PortState :=
  s.ports.getD port (s.portState ns pods port 0)

/-- The ports that are declared but have no state yet. -/
def missingPorts (s : ServiceState) : List Port :=
  match s.declared with
  | some ports => ports.keys.filter fun p => !s.ports.contains p
  | none => []

/-- Computes every port anew. Ports that are neither declared nor watched are dropped. -/
def refresh (s : ServiceState) (ns : String) (pods : Pods) (watched : Port → Bool) :
    ServiceState :=
  let kept := (s.ports.filter fun p _ => s.declares p || watched p).map fun _ ps => ps.nextNumber
  let numbers := s.missingPorts.foldl (fun m p => m.insert p 0) kept
  { s with ports := numbers.map (s.portState ns pods) }

/-- Takes the service resource away: all ports are cleared. -/
def withoutResource (s : ServiceState) : ServiceState :=
  { s with declared := none, ports := s.ports.map fun _ ps => ps.cleared }

/-- Drops the ports that are not watched. -/
def dropUnwatched (s : ServiceState) (watched : Port → Bool) : ServiceState :=
  { s with ports := s.ports.filter fun p _ => watched p }

/-- Whether a resource or a watched port keeps the service. -/
def isKept (s : ServiceState) (watched : Port → Bool) : Bool :=
  s.declared.isSome || s.backends.isSome || s.ports.keys.any watched

/-- The report of a port, whether or not its state is kept. -/
def snapshot (s : ServiceState) (service : ServiceRef) (pods : Pods) (port : Port) : PortSnapshot :=
  (s.port service.ns pods port).snapshot service port

end ServiceState

end MeshDestination
