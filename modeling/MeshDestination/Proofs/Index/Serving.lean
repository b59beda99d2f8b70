import MeshDestination.Index.Service

/-!
# Which addresses serve a port

The addresses behind a service port, as its resources alone decide them (`Backends.Serves`): pods
decide only who owns an address. The state of a port agrees with its service
(`PortState.Agrees`) when it says what the resources of the service say now. Every state that is
computed anew agrees (`ServiceState.agrees_portState`), and so does a state without a service
resource after it was cleared (`PortState.agrees_cleared`).
-/

namespace MeshDestination

open Net Cluster Std

/-! ## Declared targets -/

namespace Cluster.ServiceObject

/-- The last declaration of a port. -/
def declaration? (o : ServiceObject) (p : Port) : Option ServicePortSpec :=
  (o.ports.filter fun d => Port.ofInt? d.port = some p).getLast?

/-- The target of a port: that of its declaration, or the port itself. -/
def targetPort (o : ServiceObject) (p : Port) : TargetPort :=
  match o.declaration? p with
  | some d => targetOf p d.targetPort
  | none => .number p

end Cluster.ServiceObject

theorem getElem?_declare (m : TreeMap Port TargetPort) (d : ServicePortSpec) (p : Port) :
    (declare m d)[p]? =
      if Port.ofInt? d.port = some p then some (targetOf p d.targetPort) else m[p]? := by
  unfold declare
  cases Port.ofInt? d.port with
  | none => rfl
  | some port =>
    simp only [TreeMap.getElem?_insert, LawfulEqCmp.compare_eq_iff_eq, Option.some.injEq]
    split
    · next hp =>
      rw [hp]
    · rfl

/-- Later declarations of a port replace earlier ones. -/
theorem getElem?_foldl_declare (ds : List ServicePortSpec) (p : Port) :
    ∀ m : TreeMap Port TargetPort, (ds.foldl declare m)[p]? =
      (((ds.filter fun d => Port.ofInt? d.port = some p).getLast?).map
        fun d => targetOf p d.targetPort).or m[p]? := by
  induction ds with
  | nil => intro m; rfl
  | cons d ds ih =>
    intro m
    rw [List.foldl_cons, ih, getElem?_declare, List.filter_cons]
    by_cases hd : Port.ofInt? d.port = some p
    · rw [if_pos hd, if_pos (decide_eq_true hd), List.getLast?_cons]
      cases (ds.filter fun d => Port.ofInt? d.port = some p).getLast? <;> rfl
    · rw [if_neg hd, if_neg (by simpa using hd)]

theorem getElem?_declaredPorts (o : ServiceObject) (p : Port) :
    (declaredPorts o)[p]? = (o.declaration? p).map fun d => targetOf p d.targetPort := by
  rw [declaredPorts, getElem?_foldl_declare, Cluster.ServiceObject.declaration?]
  exact Option.or_none

/-! ## Addresses -/

namespace Cluster

/-- A port of a subset is the target and has the number of `q`. -/
def EndpointPort.Meets (p : EndpointPort) (target : TargetPort) (q : Port) : Prop :=
  Port.ofInt? p.port = some q ∧ target.isMetBy p.name q = true

/-- The first port of a subset that is the target has the number of `q`. -/
def EndpointSubset.FirstMatch (subset : EndpointSubset) (target : TargetPort) (q : Port) : Prop :=
  ∃ before p after, subset.ports = before ++ p :: after ∧ p.Meets target q ∧
    ∀ p' ∈ before, ∀ q', ¬p'.Meets target q'

/-- A subset has a ready address that reads as `ip`. -/
def EndpointSubset.Lists (subset : EndpointSubset) (ip : Ip) : Prop :=
  ∃ a ∈ subset.addresses, Ip.ofText? a.ip = some ip

/-- Subsets lead from a target port to an address. -/
def EndpointSubset.Serve (subsets : List EndpointSubset) (target : TargetPort)
    (addr : SocketAddr) : Prop :=
  ∃ subset ∈ subsets, ∃ ip q, subset.Lists ip ∧ subset.FirstMatch target q ∧
    addr = ⟨ip, q.number, 0⟩

end Cluster

namespace Backends

theorem numberOf?_eq_some {p : EndpointPort} {target : TargetPort} {q : Port} :
    numberOf? target p = some q ↔ p.Meets target q := by
  unfold numberOf? EndpointPort.Meets
  cases Port.ofInt? p.port with
  | none => simp
  | some port =>
    simp only [Option.ite_none_right_eq_some, Option.some.injEq]
    constructor
    · rintro ⟨hmet, rfl⟩
      exact ⟨rfl, hmet⟩
    · rintro ⟨rfl, hmet⟩
      exact ⟨hmet, rfl⟩

theorem portOf?_eq_some {subset : EndpointSubset} {target : TargetPort} {q : Port} :
    portOf? subset target = some q ↔ subset.FirstMatch target q := by
  rw [portOf?, List.findSome?_eq_some_iff]
  simp only [Option.eq_none_iff_forall_ne_some, ne_eq, numberOf?_eq_some]
  rfl

theorem mem_foldl_insert (es : List (SocketAddr × Option Owner)) (addr : SocketAddr) :
    ∀ m : AddressMap, addr ∈ es.foldl (fun m (addr, owner) => m.insert addr owner) m ↔
      addr ∈ m ∨ ∃ e ∈ es, e.1 = addr := by
  induction es with
  | nil => intro m; simp
  | cons e es ih =>
    intro m
    rw [List.foldl_cons, ih, TreeMap.mem_insert, LawfulEqCmp.compare_eq_iff_eq]
    simp only [List.mem_cons, exists_eq_or_imp]
    rw [or_comm (a := e.1 = addr), or_assoc]

theorem exists_mem_endpointsOf {subset : EndpointSubset} {q : Port} {ns : String} {pods : Pods}
    {addr : SocketAddr} :
    (∃ e ∈ endpointsOf subset q ns pods, e.1 = addr) ↔
      ∃ ip, subset.Lists ip ∧ addr = ⟨ip, q.number, 0⟩ := by
  unfold endpointsOf
  constructor
  · rintro ⟨e, he, rfl⟩
    obtain ⟨a, ha, hae⟩ := List.mem_filterMap.mp he
    obtain ⟨ip, hip, rfl⟩ := Option.map_eq_some_iff.mp hae
    exact ⟨ip, ⟨a, ha, hip⟩, rfl⟩
  · rintro ⟨ip, ⟨a, ha, hip⟩, rfl⟩
    refine ⟨(⟨ip, q.number, 0⟩, pods.resolve ns ip a.targetRef), ?_, rfl⟩
    refine List.mem_filterMap.mpr ⟨a, ha, ?_⟩
    rw [hip]
    rfl

/-- The addresses behind a target port do not depend on the pods. -/
theorem mem_addrs {b : Backends} {ns : String} {target : TargetPort} {pods : Pods}
    {addr : SocketAddr} :
    addr ∈ b.addrs ns target pods ↔ EndpointSubset.Serve b.subsets target addr := by
  rw [addrs, mem_foldl_insert]
  simp only [TreeMap.not_mem_emptyc, false_or, List.mem_flatMap]
  constructor
  · rintro ⟨e, ⟨subset, hsubset, he⟩, rfl⟩
    split at he
    · next q hq =>
      obtain ⟨ip, hip, haddr⟩ := exists_mem_endpointsOf.mp ⟨e, he, rfl⟩
      exact ⟨subset, hsubset, ip, q, hip, portOf?_eq_some.mp hq, haddr⟩
    · cases he
  · rintro ⟨subset, hsubset, ip, q, hip, hq, haddr⟩
    obtain ⟨e, he, rfl⟩ := exists_mem_endpointsOf.mpr ⟨ip, hip, haddr⟩
    refine ⟨e, ⟨subset, hsubset, ?_⟩, rfl⟩
    rw [portOf?_eq_some.mpr hq]
    exact he

end Backends

/-! ## States that agree with their service -/

/-- The state of a port says what the resources of its service say. -/
structure PortState.Agrees (ps : PortState) (s : ServiceState) (p : Port) : Prop where
  exists_ : ps.exists_ = s.exists_
  resourceVersion : ps.resourceVersion = s.resourceVersion
  mem_addrs : ∀ addr, addr ∈ ps.addrs ↔ ∃ ports b, s.declared = some ports ∧
    s.backends = some b ∧ EndpointSubset.Serve b.subsets (s.targetPort p) addr

namespace ServiceState

theorem agrees_portState (s : ServiceState) (ns : String) (pods : Pods) (p : Port) (n : Nat) :
    (s.portState ns pods p n).Agrees s p where
  exists_ := rfl
  resourceVersion := rfl
  mem_addrs addr := by
    change addr ∈ s.addrs ns (s.targetPort p) pods ↔ _
    unfold addrs
    cases s.declared with
    | none => simp
    | some ports =>
      cases s.backends with
      | none => simp
      | some b => simpa using Backends.mem_addrs

end ServiceState

/-- A cleared port agrees with a service that has no service resource. -/
theorem PortState.agrees_cleared (ps : PortState) {s : ServiceState} (h : s.declared = none)
    (p : Port) : ps.cleared.Agrees s p where
  exists_ := by
    rw [ServiceState.exists_, h]
    rfl
  resourceVersion := by
    rw [ServiceState.resourceVersion, h]
    rfl
  mem_addrs addr := by
    change addr ∈ (∅ : AddressMap) ↔ _
    simp [h]

end MeshDestination
