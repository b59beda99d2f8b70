import MeshDestination.Index
import MeshDestination.Traffic.Summary

/-!
# The operators' interface

Requests of operators' tools, each a document posted to a path, and what is answered: the endpoints
of all known service ports, lists of pods, and summaries of traffic.
-/

namespace MeshDestination.Api

open Net Std Traffic

/-- What is needed besides the index to answer requests. -/
structure Settings where
  /-- Pods of this namespace belong to the control plane. -/
  controlPlaneNs : String := "linkerd"
  /-- Namespaces whose pods are not listed. -/
  ignoredNamespaces : List String := ["kube-system"]

/-- A request. -/
structure Request where
  method : String
  /-- The path, with its query if it has one. -/
  target : String
  body : List UInt8

/-- An answer. -/
structure Response where
  status : Nat
  body : Option Json := none
  /-- The queries that were sent, oldest first. -/
  queries : List String := []
  /-- Whether the answer was lost because the task that makes it died. -/
  crashed : Bool := false

/-- The path of a request's target. -/
def Request.path (r : Request) : String :=
  String.ofList (r.target.toList.takeWhile fun c => c != '?' && c != '#')

/-! ## Endpoints -/

/-- An address with the text of its pod. -/
structure PodAddress where
  addr : SocketAddr
  pod : Option String
  deriving DecidableEq

/-- The addresses of an endpoint. -/
def PodAddress.ofEndpoint (e : Endpoint) : PodAddress := ⟨e.addr, e.owner.map Owner.text⟩

/-- The addresses of service ports, by the service's name and namespace, then by port. -/
abbrev EndpointsTable := TreeMap String (TreeMap Port (List PodAddress))

/-- The text that a service is listed under. -/
def serviceKey (s : ServiceRef) : String := s.name ++ "." ++ s.ns

/-- Adds the report of a service port. -/
def EndpointsTable.add (t : EndpointsTable) (s : PortSnapshot) : EndpointsTable :=
  let key := serviceKey s.service
  t.insert key ((t.getD key ∅).insert s.port (s.endpoints.map PodAddress.ofEndpoint))

/-- The addresses of all service ports that are kept. -/
def endpointsTable (ix : Index) : EndpointsTable := ix.snapshots.foldl EndpointsTable.add ∅

/-- The document of an address. -/
def PodAddress.toJson (a : PodAddress) : Json :=
  .obj [("addr", .str a.addr.text), ("pod", Json.ofText? a.pod)]

/-- The document of endpoints. -/
def EndpointsTable.toJson (t : EndpointsTable) : Json :=
  .obj [("servicePorts", .obj (t.toList.map fun (key, ports) =>
    (key, .obj [("portEndpoints", .obj (ports.toList.map fun (port, addrs) =>
      (toString port.toNat, .obj [("podAddresses", .arr (addrs.map PodAddress.toJson))])))])))]

/-! ## Pods -/

/-- A pod as it is listed. -/
structure ListedPod where
  pod : PodSummary
  /-- Whether its proxy reports. -/
  isMeshed : Bool
  isControlPlane : Bool
  deriving DecidableEq

/-- A pod with its workload. -/
def podOwner (p : PodSummary) : PodOwner := ⟨p.ns, p.name, p.ownerKind, p.ownerName⟩

/-- The pods to list. -/
def listedPods (st : Settings) (pods : List PodSummary) (selection : Option Selection)
    (meshed : MeshedPods) : List ListedPod :=
  let wanted := pods.filter fun p =>
    !st.ignoredNamespaces.contains p.ns &&
      match selection with
      | some s => s.selects (podOwner p)
      | none => true
  wanted.map fun p => ⟨p, meshed.has p.ns p.name, p.ns = st.controlPlaneNs⟩

/-- Lists pods. Nothing is asked for a request that is not valid. -/
def listPods (ix : Index) (st : Settings) (b : Backend) (r : ListPodsRequest) :
    Asked (List ListedPod) :=
  match r.selection with
  | .error e => ⟨.error e, []⟩
  | .ok selection =>
    let ns := if r.namespaceText.isEmpty then none else some r.namespaceText
    (askMeshed b r.namespaceText).map (listedPods st (ix.pods.list ns) selection)

/-- The document of a listed pod. -/
def ListedPod.toJson (p : ListedPod) : Json :=
  .obj [("name", .str (p.pod.ns ++ "/" ++ p.pod.name)),
    ("podIP", Json.ofText? (p.pod.ip.map Ip.text)),
    ("status", Json.ofText? p.pod.phase), ("ownerKind", .str p.pod.ownerKind),
    ("ownerName", .str p.pod.ownerName), ("added", .bool p.isMeshed),
    ("controllerNamespace", Json.ofText? p.pod.controlPlaneNs),
    ("controlPlane", .bool p.isControlPlane)]

/-! ## Summaries -/

/-- The document of requests' statistics. -/
def statsJson (s : RequestStats) : Json :=
  let count (n : UInt64) := Json.ofNat n.toNat
  .obj [("successCount", count s.success), ("failureCount", count s.failure),
    ("tlsRequestCount", count s.tls), ("latencyMsP50", count s.latencyP50),
    ("latencyMsP95", count s.latencyP95), ("latencyMsP99", count s.latencyP99)]

/-- The document of a row. -/
def rowJson (ns name : String) (r : SummaryRow) : Json :=
  .obj [("namespace", .str ns), ("name", .str name), ("meshed", .bool r.meshed),
    ("meshedPodCount", .ofNat r.meshedPods), ("totalPodCount", .ofNat r.totalPods),
    ("stats", (r.stats.map statsJson).getD .null)]

/-- The document of a batch. -/
def batchJson (b : SummaryBatch) : Json :=
  .obj [("kind", .str b.kind.name),
    ("rows", .arr (b.rows.map fun (ns, name, r) => rowJson ns name r))]

/-- The document of a summary. -/
def summaryJson (batches : List SummaryBatch) : Json :=
  .obj [("batches", .arr (batches.map batchJson))]

/-! ## Handling requests -/

/-- What a request whose body cannot be read is answered. -/
def malformedBody : String := "<malformed body>"

/-- The answer that something failed. -/
def failure (status : Nat) (reason : String) (queries : List String) : Response where
  status := status
  body := some (.obj [("error", .str reason)])
  queries := queries

/-- The answer for a result: 400 if the request is at fault, 502 if the metrics system is. -/
def respond (a : Asked α) (toJson : α → Json) : Response :=
  match a.result with
  | .ok x => { status := 200, body := some (toJson x), queries := a.queries }
  | .error .crashed => { status := 500, queries := a.queries, crashed := true }
  | .error (.invalid reason) => failure 400 reason a.queries
  | .error e => failure 502 e.message a.queries

/-- Reads a body and answers it. An empty body asks for nothing in particular. -/
def withBody (body : List UInt8) (empty : ρ) (read : Json → Option ρ) (answer : ρ → Response) :
    Response :=
  if body.isEmpty then answer empty
  else
    match (Json.parseBytes body).bind read with
    | some r => answer r
    | none => failure 400 malformedBody []

/-- Answers a request. -/
def handle (ix : Index) (st : Settings) (b : Backend) (r : Request) : Response :=
  if r.method ≠ "POST" then { status := 405 }
  else if r.path = "/api/v1/Endpoints" then
    { status := 200, body := some (endpointsTable ix).toJson }
  else if r.path = "/api/v1/ListPods" then
    withBody r.body {} ListPodsRequest.ofJson? fun q =>
      respond (listPods ix st b q) fun pods => .obj [("pods", .arr (pods.map ListedPod.toJson))]
  else if r.path = "/api/v1/StatSummary" then
    withBody r.body {} SummaryRequest.ofJson? fun q =>
      respond (summarize b q ((ix.pods.list none).map podOwner)) summaryJson
  else { status := 404 }

end MeshDestination.Api
