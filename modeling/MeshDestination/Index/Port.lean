import MeshDestination.Endpoint

/-!
# Service ports

The state that is kept for a service port, and the events that tell a listener how one state differs
from the next.
-/

namespace MeshDestination

/-- What a listener to a service port is told. -/
inductive EndpointsEvent where
  /-- Endpoints to forget, then endpoints to add or replace. Both ascend by address. -/
  | update (added removed : List Endpoint)
  /-- There are no endpoints; the service resource is present or not. -/
  | noEndpoints (exists_ : Bool)
  deriving DecidableEq

/-- The state of a service port. -/
structure PortState where
  targetPort : TargetPort
  addrs : AddressMap := {}
  resourceVersion : Option String := none
  /-- Whether the service resource is present. -/
  exists_ : Bool
  /-- The number of the next subscription. -/
  nextNumber : Nat := 0

namespace PortState

/-- The endpoints whose address is gone in a later state. -/
def removed (old new : AddressMap) : List Endpoint :=
  old.endpoints.filter fun e => !new.contains e.addr

/-- The endpoints of a later state whose address is new or whose owner changed. -/
def added (old new : AddressMap) : List Endpoint :=
  new.endpoints.filter fun e => old[e.addr]? != some e.owner

/-- The difference of two sets of endpoints, if there is any. -/
def difference (old new : AddressMap) : List EndpointsEvent :=
  match added old new, removed old new with
  | [], [] => []
  | plus, minus => [.update plus minus]

/-- The events that lead a listener from a state to a later one. That there are no endpoints is said
when they run out, and again when the service appears or disappears meanwhile. -/
def changes (old new : PortState) : List EndpointsEvent :=
  difference old.addrs new.addrs ++
    if new.addrs.isEmpty && (!old.addrs.isEmpty || old.exists_ != new.exists_) then
      [.noEndpoints new.exists_]
    else []

/-- The events that lead a new listener to a state. -/
def initialEvents (s : PortState) : List EndpointsEvent :=
  .update s.addrs.endpoints [] :: if s.addrs.isEmpty then [.noEndpoints s.exists_] else []

/-- A port whose service resource is gone. -/
def cleared (s : PortState) : PortState :=
  { s with addrs := {}, resourceVersion := none, exists_ := false }

/-- The report of a port. -/
def snapshot (s : PortState) (service : ServiceRef) (port : Port) : PortSnapshot where
  service := service
  port := port
  targetPort := s.targetPort
  endpoints := s.addrs.endpoints
  resourceVersion := s.resourceVersion
  exists_ := s.exists_

end PortState

end MeshDestination
