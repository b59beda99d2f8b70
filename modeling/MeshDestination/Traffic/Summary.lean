import MeshDestination.Traffic.Meshed

/-!
# Traffic summaries

The traffic of everything of a kind, one row for each thing: how many of its pods are meshed, and
how its requests went in a window of time.
-/

namespace MeshDestination.Traffic

open Std Text

/-! ## Requests -/

/-- A request for a summary. -/
structure SummaryRequest where
  type : String := ""
  name : String := ""
  ns : String := ""
  allNamespaces : Bool := false
  window : String := "1m"
  /-- With a type to send to, outbound traffic is summed up. -/
  toType : Option String := none
  toName : String := ""
  toNs : String := ""
  deriving DecidableEq

/-- A request that can be met. -/
structure SummaryPlan where
  kinds : List Kind
  ns : String
  name : String
  window : String
  destination : Option Selection
  deriving DecidableEq

/-- The units of a window of time. -/
def windowUnits : List String := ["ms", "s", "m", "h", "d", "w", "y"]

/-- Whether a text is a window of time: a positive number with a unit. -/
def isWindow (s : String) : Bool :=
  let digits := s.toList.takeWhile Char.isDigit
  let unit := s.toList.dropWhile Char.isDigit
  digits.any (· != '0') && windowUnits.contains (String.ofList unit)

namespace SummaryRequest

/-- Reads a request. -/
def ofJson? (j : Json) : Option SummaryRequest :=
  match j.record? ["type", "name", "namespace", "all_namespaces", "window", "to_type", "to_name",
      "to_namespace"] with
  | some [type, name, ns, allNamespaces, window, toType, toName, toNs] => do
    let text := Json.withDefault "" Json.text?
    let type ← text type
    let name ← text name
    let ns ← text ns
    let allNamespaces ← Json.withDefault false Json.bool? allNamespaces
    let window ← Json.withDefault "1m" Json.text? window
    let toType ← Json.optional Json.text? toType
    let toName ← text toName
    let toNs ← text toNs
    some { type, name, ns, allNamespaces, window, toType, toName, toNs }
  | _ => none

/-- What traffic must be sent to, if a type is given. -/
def destination (r : SummaryRequest) : Except QueryError (Option Selection) :=
  let type := r.toType.getD ""
  if type.isEmpty then .ok none
  else if type = "all" then .error (.invalid "'to' resource type may not be all")
  else
    match Kind.ofName? type with
    | some k => .ok (some ⟨k, r.toNs, r.toName⟩)
    | none => .error (.invalid (unknownKind type))

/-- Checks a request. -/
def plan (r : SummaryRequest) : Except QueryError SummaryPlan :=
  match Kind.ofNames? r.type with
  | none => .error (.invalid (unknownKind r.type))
  | some kinds =>
    if r.allNamespaces && !r.ns.isEmpty then
      .error (.invalid "cannot set both namespace and all_namespaces in the request")
    else if 1 < kinds.length && !r.name.isEmpty then
      .error (.invalid "a resource name may not be set for type all")
    else if !isWindow r.window then
      .error (.invalid ("invalid time window: " ++ quoted r.window))
    else r.destination.map fun destination =>
      { kinds, ns := r.ns, name := r.name, window := r.window, destination }

end SummaryRequest

/-! ## Rows -/

/-- How requests went. -/
structure RequestStats where
  success : UInt64 := 0
  failure : UInt64 := 0
  tls : UInt64 := 0
  latencyP50 : UInt64 := 0
  latencyP95 : UInt64 := 0
  latencyP99 : UInt64 := 0
  deriving DecidableEq

/-- A thing and its traffic. -/
structure SummaryRow where
  meshed : Bool := false
  meshedPods : Nat := 0
  totalPods : Nat := 0
  /-- Absent when no traffic was reported. -/
  stats : Option RequestStats := none
  deriving DecidableEq

/-- The rows of a summary, by namespace and name. -/
abbrev SummaryRows := TreeMap String (TreeMap String SummaryRow)

namespace SummaryRows

/-- The row of a thing, empty if there is none. -/
def row (rows : SummaryRows) (ns name : String) : SummaryRow := (rows.getD ns ∅).getD name {}

/-- Sets the row of a thing. -/
def set (rows : SummaryRows) (ns name : String) (r : SummaryRow) : SummaryRows :=
  rows.insert ns ((rows.getD ns ∅).insert name r)

/-- The rows, ascending by namespace and name. -/
def entries (rows : SummaryRows) : List (String × String × SummaryRow) :=
  rows.toList.flatMap fun (ns, named) => named.toList.map fun (name, r) => (ns, name, r)

end SummaryRows

/-- Counts a pod. -/
def SummaryRow.addPod (r : SummaryRow) (meshed : Bool) : SummaryRow :=
  { r with
    meshed := r.meshed || meshed
    meshedPods := if meshed then r.meshedPods + 1 else r.meshedPods
    totalPods := r.totalPods + 1 }

/-- The name of a pod's row among the rows of its namespace. -/
def podRowName (k : Kind) (pod : PodOwner) : String :=
  match k with
  | .ns => pod.ns
  | .pod => pod.name
  | _ => pod.ownerName

/-- The rows of what is selected, with pods counted. -/
def podRows (s : Selection) (pods : List PodOwner) (meshed : MeshedPods) : SummaryRows :=
  (pods.filter s.selects).foldl
    (fun rows pod =>
      let name := podRowName s.kind pod
      rows.set pod.ns name ((rows.row pod.ns name).addPod (meshed.has pod.ns pod.name))) ∅

/-- The row that a sample belongs to, as namespace and name. -/
def sampleRow? (k : Kind) (s : Sample) : Option (String × String) := do
  let ns ← s.label? namespaceLabel
  if k = .ns then some (ns, ns)
  else
    let name ← s.label? k.label
    some (ns, name)

/-- Adds to a count, which must stay below 2^64. -/
def addCount? (n m : UInt64) : Option UInt64 :=
  if n.toNat + m.toNat < UInt64.size then some (n + m) else none

/-- Adds the value of a sample to a count if a label has the value that is counted. -/
def Sample.addTo? (s : Sample) (label value : String) (n : UInt64) : Option UInt64 :=
  if s.label? label = some value then addCount? n s.counter else some n

/-- Adds the value of a sample. Requests are counted by how they were classified and whether they
were encrypted; a latency is replaced. There is no result if a count grows too large. -/
def RequestStats.add? (st : RequestStats) (key : QueryKey) (s : Sample) : Option RequestStats :=
  match key with
  | .request _ => do
    let success ← s.addTo? "classification" "success" st.success
    let failure ← s.addTo? "classification" "failure" st.failure
    let tls ← s.addTo? "tls" "true" st.tls
    some { st with success, failure, tls }
  | .latency .p50 => some { st with latencyP50 := s.counter }
  | .latency .p95 => some { st with latencyP95 := s.counter }
  | .latency .p99 => some { st with latencyP99 := s.counter }

/-- Adds a sample to the row that it belongs to, if it belongs to one. -/
def addSample? (k : Kind) (key : QueryKey) (rows : SummaryRows) (s : Sample) :
    Option SummaryRows :=
  match sampleRow? k s with
  | none => some rows
  | some (ns, name) =>
    let r := rows.row ns name
    ((r.stats.getD {}).add? key s).map fun st => rows.set ns name { r with stats := some st }

/-- Adds the samples of all queries. There are no rows if a count grows too large. -/
def addStats? (k : Kind) (rows : SummaryRows) (results : List (QueryKey × List Sample)) :
    Option SummaryRows :=
  results.foldlM (fun rows (key, ss) => ss.foldlM (addSample? k key) rows) rows

/-! ## Summaries -/

/-- The rows of one kind. -/
structure SummaryBatch where
  kind : Kind
  rows : List (String × String × SummaryRow)

/-- What services and authorities, which have no pods, are taken for: meshed if the first row of the
batch before is. -/
def inferredMeshed (previous : List SummaryRow) : Bool :=
  match previous with
  | r :: _ => r.meshed
  | [] => false

/-- The batch of a kind from its counted rows, after the batch before it. -/
def SummaryBatch.ofRows (k : Kind) (rows : SummaryRows) (previous : Option SummaryBatch) :
    SummaryBatch :=
  if k = .service ∨ k = .authority then
    let meshed := inferredMeshed ((previous.map (·.rows.map (·.2.2))).getD [])
    ⟨k, rows.entries.map fun (ns, name, r) => (ns, name, { r with meshed })⟩
  else ⟨k, rows.entries⟩

/-- The query for requests. -/
def requestTemplate : String :=
  "sum(increase(response_total\x7blabels\x7d[\x7bwindow\x7d])) by " ++
    "(\x7bgroup_by\x7d, classification, tls)"

/-- The query for latencies. -/
def latencyTemplate : String :=
  "histogram_quantile(\x7bquantile\x7d, " ++
    "sum(irate(response_latency_ms_bucket\x7blabels\x7d[\x7bwindow\x7d])) " ++
    "by (le, \x7bgroup_by\x7d))"

namespace SummaryPlan

/-- What of a kind is selected. An unnamed namespace is named by the request's namespace. -/
def selection (p : SummaryPlan) (k : Kind) : Selection :=
  if k = .ns ∧ p.name.isEmpty then ⟨k, "", p.ns⟩ else ⟨k, p.ns, p.name⟩

/-- The labels to ask for. -/
def labels (p : SummaryPlan) (s : Selection) : LabelSet :=
  match p.destination with
  | none => (queryLabels s).merge (directionLabels "inbound")
  | some d => ((queryLabels s).merge (destinationLabels d)).merge (directionLabels "outbound")

/-- What is asked for a kind. -/
def inquiry (p : SummaryPlan) (k : Kind) : Inquiry where
  requests := [("QUERY_REQUESTS", requestTemplate)]
  latency := latencyTemplate
  labels := p.labels (p.selection k)
  window := p.window
  groupBy := groupLabels k

/-- The batches of some kinds, in order, after an earlier one. A count that grows too large ends the
request. -/
def batches (p : SummaryPlan) (b : Backend) (pods : List PodOwner) (meshed : MeshedPods) :
    List Kind → Option SummaryBatch → Asked (List SummaryBatch)
  | [], _ => ⟨.ok [], []⟩
  | k :: rest, previous =>
    ((p.inquiry k).ask b).andThen fun results =>
      match addStats? k (podRows (p.selection k) pods meshed) results with
      | none => ⟨.error .crashed, []⟩
      | some rows =>
        let batch := SummaryBatch.ofRows k rows previous
        (p.batches b pods meshed rest (some batch)).map (batch :: ·)

end SummaryPlan

/-- Sums traffic up. Nothing is asked for a request that is not valid. -/
def summarize (b : Backend) (r : SummaryRequest) (pods : List PodOwner) :
    Asked (List SummaryBatch) :=
  match r.plan with
  | .error e => ⟨.error e, []⟩
  | .ok p => (askMeshed b p.ns).andThen fun meshed => p.batches b pods meshed p.kinds none

end MeshDestination.Traffic
