import MeshDestination.Cluster.Key
import MeshDestination.Profile
import MeshDestination.Service

/-!
# Effective profiles

The profiles of all resources, and the profile that governs each service that is listened to. A
profile is named after the service it governs; one in the service's own namespace comes before one
in the control plane's.
-/

namespace MeshDestination

open Cluster Std

/-- What is known of the cluster as a whole. -/
structure ClusterInfo where
  /-- The namespace whose profiles govern services of every namespace. -/
  controlPlaneNs : String := "linkerd"
  /-- The domain of all service names. -/
  dnsDomain : String := "cluster.local"
  /-- How many events a listener's queue holds. -/
  queueCapacity : Nat := 100

/-- The name of the profiles that may govern a service. -/
def ClusterInfo.profileName (c : ClusterInfo) (service : ServiceRef) : String :=
  service.fqdn c.dnsDomain

/-- The profile of a service as its listeners were last told. -/
structure ProfileState where
  current : Option Profile
  /-- The number of the next subscription. -/
  nextNumber : Nat := 0

/-- The profiles of all resources and of the services that are listened to. -/
structure Profiles where
  resources : TreeMap ObjectKey Profile := {}
  services : TreeMap ServiceRef ProfileState := {}

namespace Profiles

/-- The profile that governs a service. -/
def effective (p : Profiles) (c : ClusterInfo) (service : ServiceRef) : Option Profile :=
  let name := c.profileName service
  let own : ObjectKey := ⟨service.ns, name⟩
  let shared : ObjectKey := ⟨c.controlPlaneNs, name⟩
  p.resources[own]?.or p.resources[shared]?

/-- Whether a resource may govern a service. -/
def mayGovern (c : ClusterInfo) (key : ObjectKey) (service : ServiceRef) : Bool :=
  (service.ns = key.ns || key.ns = c.controlPlaneNs) && c.profileName service = key.name

/-- Looks the profile up again for every service that a resource may govern. A profile that is the
same as before stays. -/
def reindex (p : Profiles) (c : ClusterInfo) (key : ObjectKey) : Profiles :=
  { p with services := p.services.map fun service state =>
      let profile := p.effective c service
      if mayGovern c key service && !beqOption Profile.beq state.current profile then
        { state with current := profile }
      else state }

/-- The profile that the listeners of a service are told when a resource changes, if it is another
than before. -/
def changes (before after : Profiles) (c : ClusterInfo) (key : ObjectKey) (service : ServiceRef) :
    List (Option Profile) :=
  match before.services[service]? with
  | some state =>
    let profile := after.effective c service
    if mayGovern c key service && !beqOption Profile.beq state.current profile then [profile]
    else []
  | none => []

/-- Records the profile of a resource. -/
def insert (p : Profiles) (c : ClusterInfo) (key : ObjectKey) (profile : Profile) : Profiles :=
  { p with resources := p.resources.insert key profile }.reindex c key

/-- Forgets a resource. -/
def erase (p : Profiles) (c : ClusterInfo) (key : ObjectKey) : Profiles :=
  { p with resources := p.resources.erase key }.reindex c key

/-- Drops the services that are not watched. -/
def collect (p : Profiles) (watched : ServiceRef → Bool) : Profiles :=
  { p with services := p.services.filter fun service _ => watched service }

/-- The state of a service, with the profile looked up if there is none. -/
def state (p : Profiles) (c : ClusterInfo) (service : ServiceRef) : ProfileState :=
  p.services.getD service ⟨p.effective c service, 0⟩

end Profiles

end MeshDestination
