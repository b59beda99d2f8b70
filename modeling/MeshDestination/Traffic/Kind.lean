/-!
# Kinds of workload

The kinds of thing that traffic is summed up for, their names, and selections of things of a kind.
-/

namespace MeshDestination.Traffic

/-- A kind of thing that has traffic. -/
inductive Kind where
  | authority
  | daemonSet
  | deployment
  | job
  | ns
  | pod
  | replicationController
  | replicaSet
  | service
  | serviceProfile
  | statefulSet
  deriving DecidableEq

namespace Kind

/-- Every kind. -/
def all : List Kind :=
  [.authority, .daemonSet, .deployment, .job, .ns, .pod, .replicationController, .replicaSet,
    .service, .serviceProfile, .statefulSet]

/-- The full name of a kind. -/
def name : Kind → String
  | .authority => "authority"
  | .daemonSet => "daemonset"
  | .deployment => "deployment"
  | .job => "job"
  | .ns => "namespace"
  | .pod => "pod"
  | .replicationController => "replicationcontroller"
  | .replicaSet => "replicaset"
  | .service => "service"
  | .serviceProfile => "serviceprofile"
  | .statefulSet => "statefulset"

/-- The short name of a kind. -/
def shortName : Kind → String
  | .authority => "au"
  | .daemonSet => "ds"
  | .deployment => "deploy"
  | .job => "job"
  | .ns => "ns"
  | .pod => "po"
  | .replicationController => "rc"
  | .replicaSet => "rs"
  | .service => "svc"
  | .serviceProfile => "sp"
  | .statefulSet => "sts"

/-- The name of several things of a kind. -/
def plural : Kind → String
  | .authority => "authorities"
  | k => k.name ++ "s"

/-- The kind of a short, full or plural name. -/
def ofName? (s : String) : Option Kind :=
  all.find? fun k => s == k.shortName || s == k.name || s == k.plural

/-- The metric label that tells things of a kind apart. The plain name of jobs is taken by the
metrics system itself. -/
def label : Kind → String
  | .job => "k8s_job"
  | k => k.name

/-- Whether the cluster knows things of a kind as resources. -/
def isResource (k : Kind) : Bool := k ≠ .authority

/-- Whether pods belong to things of a kind. -/
def hasPods (k : Kind) : Bool := k ≠ .authority && k ≠ .service && k ≠ .serviceProfile

/-- The kinds that a summary of everything covers, in order. -/
def summarized : List Kind :=
  [.daemonSet, .statefulSet, .deployment, .replicationController, .pod, .service, .authority]

/-- The kinds of a name that may stand for everything. -/
def ofNames? (s : String) : Option (List Kind) :=
  if s = "all" then some summarized else (ofName? s).map ([·])

end Kind

/-- What is said of a name that is no kind's. -/
def unknownKind (s : String) : String :=
  "cannot find Kubernetes canonical name from friendly name [" ++ s ++ "]"

/-- Things of a kind, by namespace and name. An empty text asks for nothing. -/
structure Selection where
  kind : Kind
  ns : String
  name : String
  deriving DecidableEq

/-- A pod and its top-level workload. -/
structure PodOwner where
  ns : String
  name : String
  ownerKind : String
  ownerName : String
  deriving DecidableEq

/-- Whether a wish for a text is met. -/
def wishMet (wish actual : String) : Bool := wish.isEmpty || wish = actual

/-- Whether a pod belongs to what is selected. -/
def Selection.selects (s : Selection) (pod : PodOwner) : Bool :=
  match s.kind with
  | .ns => wishMet s.name pod.ns
  | .pod => wishMet s.ns pod.ns && wishMet s.name pod.name
  | k =>
    k.hasPods && wishMet s.ns pod.ns && k.name = pod.ownerKind && wishMet s.name pod.ownerName

end MeshDestination.Traffic
