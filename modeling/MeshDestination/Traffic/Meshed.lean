import MeshDestination.Traffic.Query

/-!
# Meshed pods

Which pods run a proxy that reports metrics, and requests to list pods.
-/

namespace MeshDestination.Traffic

open Number

/-- The query for the pods whose proxies report, but for its labels. -/
def meshedTemplate : String := "max(process_start_time_seconds\x7blabels\x7d) by (pod, namespace)"

/-- The query for the pods of a namespace, or of all, whose proxies report. -/
def meshedQuery (ns : String) : String :=
  renderTemplate ⟨(labelIf (!ns.isEmpty) namespaceLabel ns).text, "", "", none⟩ meshedTemplate

/-- The pods whose proxies report, by namespace and name, with the time of the last report. -/
abbrev MeshedPods := Std.TreeMap String (Std.TreeMap String Binary)

namespace MeshedPods

/-- Records a report. A later one replaces an earlier one. -/
def record (m : MeshedPods) (ns name : String) (time : Binary) : MeshedPods :=
  m.insert ns ((m.getD ns ∅).insert name time)

/-- Records the report of a sample, if it tells the pod. -/
def recordSample (m : MeshedPods) (s : Sample) : MeshedPods :=
  match s.label? namespaceLabel, s.label? "pod" with
  | some ns, some name => m.record ns name s.timestamp
  | _, _ => m

/-- Whether a pod's proxy reports. -/
def has (m : MeshedPods) (ns name : String) : Bool := (m.getD ns ∅).contains name

/-- The pods with their times, ascending by namespace and name. -/
def entries (m : MeshedPods) : List (String × String × Binary) :=
  m.toList.flatMap fun (ns, named) => named.toList.map fun (name, time) => (ns, name, time)

end MeshedPods

/-- Asks for the pods whose proxies report. -/
def askMeshed (b : Backend) (ns : String) : Asked MeshedPods :=
  (ask b (meshedQuery ns)).map fun ss => ss.foldl MeshedPods.recordSample ∅

/-! ## Requests to list pods -/

/-- A request to list pods, of a namespace or of a selection. -/
structure ListPodsRequest where
  ns : Option String := none
  type : Option String := none
  selectedNs : Option String := none
  selectedName : Option String := none
  deriving DecidableEq

namespace ListPodsRequest

/-- Reads a request. -/
def ofJson? (j : Json) : Option ListPodsRequest :=
  match j.record? ["namespace", "type", "resource_namespace", "resource_name"] with
  | some [ns, type, selectedNs, selectedName] => do
    let ns ← Json.optional Json.text? ns
    let type ← Json.optional Json.text? type
    let selectedNs ← Json.optional Json.text? selectedNs
    let selectedName ← Json.optional Json.text? selectedName
    some { ns, type, selectedNs, selectedName }
  | _ => none

/-- The namespace that is asked for, empty if none is. -/
def namespaceText (r : ListPodsRequest) : String := r.ns.getD ""

/-- The selection that a request asks for, if any. A namespace and a selection exclude each other.
-/
def selection (r : ListPodsRequest) : Except QueryError (Option Selection) :=
  let type := r.type.getD ""
  if type.isEmpty then .ok none
  else if !r.namespaceText.isEmpty then
    .error (.invalid ("cannot set both namespace and resource in the request. " ++
      "These are mutually exclusive"))
  else
    match Kind.ofName? type with
    | none => .error (.invalid (unknownKind type))
    | some k =>
      if k.hasPods then .ok (some ⟨k, r.selectedNs.getD "", r.selectedName.getD ""⟩)
      else .error (.invalid ("cannot list pods of a " ++ k.name))

end ListPodsRequest

end MeshDestination.Traffic
