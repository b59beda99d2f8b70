/-!
# Cluster resources

The parts of the cluster's resources that decide where traffic goes: services, the addresses behind
them, pods, and the replica sets that pods come from.
-/

namespace MeshDestination.Cluster

/-- The owner that a resource names. -/
structure OwnerRef where
  kind : String
  name : String
  deriving DecidableEq

/-- What every resource says of itself. -/
structure ObjectMeta where
  name : Option String := none
  ns : Option String := none
  resourceVersion : Option String := none
  labels : List (String × String) := []
  owners : List OwnerRef := []

/-- The namespace of a resource; without one it is the empty one. -/
def ObjectMeta.namespaceName (m : ObjectMeta) : String := m.ns.getD ""

/-- The value of a label. -/
def ObjectMeta.label? (m : ObjectMeta) (name : String) : Option String :=
  (m.labels.find? (·.1 == name)).map (·.2)

/-- The target of a declared port, by number or by name. -/
inductive IntOrText where
  | int (n : Int)
  | text (s : String)

/-- A port that a service declares. -/
structure ServicePortSpec where
  port : Int
  targetPort : Option IntOrText

/-- A service resource. -/
structure ServiceObject where
  meta_ : ObjectMeta
  ports : List ServicePortSpec

/-- A reference from an address to what serves it. -/
structure TargetRef where
  kind : Option String
  ns : Option String
  name : Option String
  deriving DecidableEq

/-- An address behind a service. -/
structure EndpointAddress where
  ip : String
  targetRef : Option TargetRef
  deriving DecidableEq

/-- A port that the addresses of a subset serve. -/
structure EndpointPort where
  name : Option String
  port : Int
  deriving DecidableEq

/-- Addresses that serve the same ports. Only ready addresses are listed. -/
structure EndpointSubset where
  addresses : List EndpointAddress
  ports : List EndpointPort
  deriving DecidableEq

/-- An endpoints resource. -/
structure EndpointsObject where
  meta_ : ObjectMeta
  subsets : List EndpointSubset

/-- A pod resource. -/
structure PodObject where
  meta_ : ObjectMeta
  ip : Option String
  phase : Option String

/-- A replica set resource. -/
structure ReplicaSetObject where
  meta_ : ObjectMeta

end MeshDestination.Cluster
