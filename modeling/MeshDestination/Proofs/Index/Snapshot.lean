import MeshDestination.Proofs.Index.Ports
import MeshDestination.Proofs.Index.Serving

/-!
# Reports follow from the applied resources

Whatever happened before, the report of a service port is a function of the service resource and the
endpoints resource that are applied and not deleted since (`snapshot_reflects_applied`): states that
are kept, states that are computed for a report, services that were dropped and came back, and
endpoints that are older than their service or outlive it make no difference. The invariant is
`ServiceState.Tracks`; an operation changes the state of a service as it changes the applied
resources (`Index.tracks_perform`).
-/

namespace MeshDestination

open Net Cluster Std

/-! ## States of one service -/

theorem PortState.Agrees.congr {ps : PortState} {s s' : ServiceState} {p : Port}
    (h : ps.Agrees s p) (hd : s'.declared = s.declared) (hb : s'.backends = s.backends) :
    ps.Agrees s' p where
  exists_ := by
    rw [h.exists_, ServiceState.exists_, ServiceState.exists_, hd]
  resourceVersion := by
    rw [h.resourceVersion, ServiceState.resourceVersion, ServiceState.resourceVersion, hd, hb]
  mem_addrs addr := by
    rw [h.mem_addrs, ServiceState.targetPort, ServiceState.targetPort, hd, hb]

namespace ServiceState

/-- A service is what the applied resources say, and the kept states of its ports agree with it. -/
structure Tracks (s : ServiceState) (svc : Option ServiceObject) (eps : Option EndpointsObject) :
    Prop where
  declared : s.declared = svc.map declaredPorts
  backends : s.backends = eps.map Backends.ofObject
  ports : ∀ (p : Port) (ps : PortState), s.ports[p]? = some ps → ps.Agrees s p

variable {s : ServiceState} {svc : Option ServiceObject} {eps : Option EndpointsObject}

theorem tracks_empty : ({} : ServiceState).Tracks none none where
  declared := rfl
  backends := rfl
  ports p ps h := by
    rw [show ({} : ServiceState).ports[p]? = none from TreeMap.getElem?_emptyc] at h
    cases h

/-- A service with neither resource tracks nothing. -/
theorem Tracks.none_of_none (h : s.Tracks svc eps) (hd : s.declared = none)
    (hb : s.backends = none) : svc = none ∧ eps = none := by
  have hsvc := h.declared
  have heps := h.backends
  rw [hd] at hsvc
  rw [hb] at heps
  exact ⟨Option.map_eq_none_iff.mp hsvc.symm, Option.map_eq_none_iff.mp heps.symm⟩

/-- A refresh makes every state agree, whatever it was before. -/
theorem tracks_refresh (s : ServiceState) (hd : s.declared = svc.map declaredPorts)
    (hb : s.backends = eps.map Backends.ofObject) (ns : String) (pods : Pods)
    (watched : Port → Bool) : (s.refresh ns pods watched).Tracks svc eps where
  declared := hd
  backends := hb
  ports p ps h := by
    obtain ⟨n, rfl⟩ := portState_of_refresh h
    exact (agrees_portState s ns pods p n).congr rfl rfl

theorem Tracks.withoutResource (h : s.Tracks svc eps) : s.withoutResource.Tracks none eps where
  declared := rfl
  backends := h.backends
  ports p ps hps := by
    rw [ServiceState.withoutResource, TreeMap.getElem?_map] at hps
    obtain ⟨old, -, rfl⟩ := Option.map_eq_some_iff.mp hps
    exact old.agrees_cleared rfl p

theorem Tracks.dropUnwatched (h : s.Tracks svc eps) (watched : Port → Bool) :
    (s.dropUnwatched watched).Tracks svc eps where
  declared := h.declared
  backends := h.backends
  ports p ps hps := by
    rw [ServiceState.dropUnwatched, TreeMap.getElem?_filter'] at hps
    exact (h.ports p ps (Option.eq_some_of_filter_eq_some hps)).congr rfl rfl

/-- The state of a port agrees with its service, whether or not it is kept. -/
theorem Tracks.port (h : s.Tracks svc eps) (ns : String) (pods : Pods) (p : Port) :
    (s.port ns pods p).Agrees s p := by
  rw [ServiceState.port, TreeMap.getD_eq_getD_getElem?]
  cases hp : s.ports[p]? with
  | none => exact agrees_portState s ns pods p 0
  | some ps => exact h.ports p ps hp

theorem Tracks.insert (h : s.Tracks svc eps) {p : Port} {ps : PortState} (hps : ps.Agrees s p) :
    ({ s with ports := s.ports.insert p ps } : ServiceState).Tracks svc eps where
  declared := h.declared
  backends := h.backends
  ports q qs hqs := by
    simp only [TreeMap.getElem?_insert, LawfulEqCmp.compare_eq_iff_eq] at hqs
    split at hqs
    · next hq =>
      cases hqs
      subst hq
      exact hps.congr rfl rfl
    · exact (h.ports q qs hqs).congr rfl rfl

end ServiceState

namespace Index

/-! ## What an operation does to a service -/

variable {ix : Index} {s : ServiceRef} {svc : Option ServiceObject} {eps : Option EndpointsObject}

theorem service_of_none {s : ServiceRef} (h : ix.services[s]? = none) : ix.service s = {} := by
  rw [service, TreeMap.getD_eq_getD_getElem?, h]
  rfl

/-- A service of which nothing is kept has neither resource. -/
theorem none_of_unknown (h : (ix.service s).Tracks svc eps) (hs : ix.services[s]? = none) :
    svc = none ∧ eps = none := by
  rw [service_of_none hs] at h
  exact h.none_of_none rfl rfl

theorem tracks_collect (h : (ix.service s).Tracks svc eps) :
    (ix.collect.service s).Tracks svc eps := by
  rcases service_collect ix s with hs | ⟨hs, hd, hb⟩
  · rwa [hs]
  · obtain ⟨rfl, rfl⟩ := h.none_of_none hd hb
    rw [hs]
    exact ServiceState.tracks_empty

theorem tracks_setPods (h : (ix.service s).Tracks svc eps) (pods : Pods) :
    (({ ix with pods } : Index).service s).Tracks svc eps := h

theorem tracks_reresolve (h : (ix.service s).Tracks svc eps) (ns : String) (ips : List Ip) :
    ((ix.reresolve ns ips).service s).Tracks svc eps := by
  cases hs : ix.services[s]? with
  | none =>
    have hnone : (ix.reresolve ns ips).services[s]? = none := by
      simp only [reresolve, publishSince, TreeMap.getElem?_map, hs, Option.map_none]
    rw [service_of_none hs] at h
    rwa [service_of_none hnone]
  | some state =>
    rw [service_of_getElem? hs] at h
    have hsome : (ix.reresolve ns ips).services[s]? = some (ix.reresolveService ns ips s state) := by
      simp only [reresolve, publishSince, TreeMap.getElem?_map, hs, Option.map_some]
    rw [service_of_getElem? hsome, reresolveService]
    split
    · split
      · exact ServiceState.tracks_refresh state h.declared h.backends ns ix.pods _
      · exact h
    · exact h

theorem tracks_applyService (h : (ix.service s).Tracks svc eps) (s' : ServiceRef)
    (o : ServiceObject) :
    ((ix.applyService s' o).service s).Tracks (if s' = s then some o else svc) eps := by
  change ((ix.setService s' _).service s).Tracks _ _
  rw [service_setService]
  split
  · next hs =>
    subst hs
    exact ServiceState.tracks_refresh { ix.service s' with declared := some (declaredPorts o) }
      rfl h.backends s'.ns ix.pods _
  · exact h

theorem tracks_applyEndpoints (h : (ix.service s).Tracks svc eps) (s' : ServiceRef)
    (o : EndpointsObject) :
    ((ix.applyEndpoints s' o).service s).Tracks svc (if s' = s then some o else eps) := by
  change ((ix.setService s' _).service s).Tracks _ _
  rw [service_setService]
  split
  · next hs =>
    subst hs
    exact ServiceState.tracks_refresh { ix.service s' with backends := some (.ofObject o) }
      h.declared rfl s'.ns ix.pods _
  · exact h

theorem tracks_deleteService (h : (ix.service s).Tracks svc eps) (s' : ServiceRef) :
    ((ix.deleteService s').service s).Tracks (if s' = s then none else svc) eps := by
  unfold deleteService
  cases hs : ix.services[s']? with
  | none =>
    apply tracks_collect
    split
    · next hs' =>
      subst hs'
      obtain ⟨rfl, rfl⟩ := none_of_unknown h hs
      exact h
    · exact h
  | some state =>
    have htold : (((ix.setService s' state.withoutResource).publishSince ix).service s).Tracks
        (if s' = s then none else svc) eps := by
      change ((ix.setService s' _).service s).Tracks _ _
      rw [service_setService]
      split
      · next hs' =>
        subst hs'
        rw [service_of_getElem? hs] at h
        exact h.withoutResource
      · exact h
    apply tracks_collect
    rw [service_setService]
    by_cases hs' : s' = s
    · subst hs'
      simp only [if_true] at htold ⊢
      exact htold.dropUnwatched _
    · simp only [if_neg hs'] at htold ⊢
      exact htold

theorem tracks_deleteEndpoints (h : (ix.service s).Tracks svc eps) (s' : ServiceRef) :
    ((ix.deleteEndpoints s').service s).Tracks svc (if s' = s then none else eps) := by
  unfold deleteEndpoints
  cases hs : ix.services[s']? with
  | none =>
    apply tracks_collect
    split
    · next hs' =>
      subst hs'
      obtain ⟨rfl, rfl⟩ := none_of_unknown h hs
      exact h
    · exact h
  | some state =>
    apply tracks_collect
    change ((ix.setService s' _).service s).Tracks _ _
    rw [service_setService]
    split
    · next hs' =>
      subst hs'
      rw [service_of_getElem? hs] at h
      exact ServiceState.tracks_refresh { state with backends := none } h.declared rfl s'.ns
        ix.pods _
    · exact h

theorem tracks_subscribeEndpoints (h : (ix.service s).Tracks svc eps) (s' : ServiceRef)
    (p : Port) : ((ix.subscribeEndpoints s' p).1.service s).Tracks svc eps := by
  have hc := tracks_collect h
  change ((ix.collect.setService s' _).service s).Tracks svc eps
  rw [service_setService]
  split
  · next hs =>
    subst hs
    have hport := hc.port s'.ns ix.pods p
    exact hc.insert ⟨hport.exists_, hport.resourceVersion, hport.mem_addrs⟩
  · exact hc

/-! ## Runs -/

variable {α : Type} {kind : Kind} {key : ObjectKey} {current : Option α}

theorem record_apply (pick : Resource → Option α) {r : Resource} {name : String}
    (hname : r.meta_.name = some name) (s : ServiceRef) :
    record pick kind ⟨s.ns, s.name⟩ current (.apply r) =
      if ⟨r.meta_.namespaceName, name⟩ = s then (pick r).or current else current := by
  cases s
  simp [record, Resource.key?, hname]

theorem record_delete (pick : Resource → Option α) (k : Kind) (ns name : String) (s : ServiceRef) :
    record pick kind ⟨s.ns, s.name⟩ current (.delete k ns name) =
      if k = kind ∧ ⟨ns, name⟩ = s then none else current := by
  cases s
  simp [record, eq_comm]

theorem record_unnamed (pick : Resource → Option α) {r : Resource} (hname : r.meta_.name = none) :
    record pick kind key current (.apply r) = current := by
  simp [record, Resource.key?, hname]

theorem tracks_applyNamed (h : (ix.service s).Tracks svc eps) {r : Resource} {name : String}
    (hname : r.meta_.name = some name) :
    ((ix.applyNamed r.meta_.namespaceName name r).1.service s).Tracks
      (record Resource.service? .service ⟨s.ns, s.name⟩ svc (.apply r))
      (record Resource.endpoints? .endpoints ⟨s.ns, s.name⟩ eps (.apply r)) := by
  rw [record_apply _ hname, record_apply _ hname]
  cases r with
  | service o =>
    simp only [Resource.service?, Resource.endpoints?, Option.some_or, Option.none_or, ite_self]
    exact tracks_applyService h _ o
  | endpoints o =>
    simp only [Resource.service?, Resource.endpoints?, Option.some_or, Option.none_or, ite_self]
    exact tracks_applyEndpoints h _ o
  | pod o =>
    simp only [Resource.service?, Resource.endpoints?, Option.none_or, ite_self]
    exact tracks_reresolve (tracks_setPods h _) _ _
  | replicaSet o =>
    simp only [Resource.service?, Resource.endpoints?, Option.none_or, ite_self]
    exact h
  | serviceProfile o =>
    simp only [Resource.service?, Resource.endpoints?, Option.none_or, ite_self, applyNamed]
    cases Profile.ofSpec o.spec with
    | error e => exact h
    | ok profile => exact h

theorem tracks_apply (h : (ix.service s).Tracks svc eps) (r : Resource) :
    ((ix.apply r).1.service s).Tracks
      (record Resource.service? .service ⟨s.ns, s.name⟩ svc (.apply r))
      (record Resource.endpoints? .endpoints ⟨s.ns, s.name⟩ eps (.apply r)) := by
  unfold apply
  split
  · next name hname =>
    exact tracks_applyNamed h hname
  · next hname =>
    rw [record_unnamed _ hname, record_unnamed _ hname]
    cases r <;> exact h

theorem tracks_delete (h : (ix.service s).Tracks svc eps) (k : Kind) (ns name : String) :
    ((ix.delete k ns name).service s).Tracks
      (record Resource.service? .service ⟨s.ns, s.name⟩ svc (.delete k ns name))
      (record Resource.endpoints? .endpoints ⟨s.ns, s.name⟩ eps (.delete k ns name)) := by
  rw [record_delete, record_delete]
  cases k with
  | service =>
    simp only [reduceCtorEq, false_and, true_and, if_false]
    exact tracks_deleteService h ⟨ns, name⟩
  | endpoints =>
    simp only [reduceCtorEq, false_and, true_and, if_false]
    exact tracks_deleteEndpoints h ⟨ns, name⟩
  | pod =>
    simp only [reduceCtorEq, false_and, if_false]
    exact tracks_reresolve (tracks_setPods h _) ns _
  | replicaSet => exact h
  | serviceProfile =>
    change ((ix.deleteProfile _).service s).Tracks svc eps
    unfold deleteProfile
    split
    · exact h
    · exact h

/-- An operation changes a service as it changes the applied resources. -/
theorem tracks_perform (h : (ix.service s).Tracks svc eps) (op : Operation) :
    ((ix.perform op).service s).Tracks
      (record Resource.service? .service ⟨s.ns, s.name⟩ svc op)
      (record Resource.endpoints? .endpoints ⟨s.ns, s.name⟩ eps op) := by
  cases op with
  | apply r => exact tracks_apply h r
  | delete k ns name => exact tracks_delete h k ns name
  | subscribeEndpoints s' p => exact tracks_subscribeEndpoints h s' p
  | subscribeProfile s' => exact h
  | onEndpoints ticket a => exact h
  | onProfile ticket a => exact h

theorem tracks_run (ops : List Operation) :
    ∀ {ix : Index} {svc : Option ServiceObject} {eps : Option EndpointsObject},
      (ix.service s).Tracks svc eps →
      ((ix.run ops).service s).Tracks
        (ops.foldl (record Resource.service? .service ⟨s.ns, s.name⟩) svc)
        (ops.foldl (record Resource.endpoints? .endpoints ⟨s.ns, s.name⟩) eps) := by
  induction ops with
  | nil => exact fun h => h
  | cons op ops ih => exact fun h => ih (tracks_perform h op)

theorem tracks_applied (c : ClusterInfo) (ops : List Operation) (s : ServiceRef) :
    (((start c).run ops).service s).Tracks (appliedService ops s) (appliedEndpoints ops s) := by
  apply tracks_run
  have hnone : (start c).services[s]? = none := TreeMap.getElem?_emptyc
  rw [service_of_none hnone]
  exact ServiceState.tracks_empty

end Index

/-! ## Reports -/

/-- A report says what a service resource and an endpoints resource decide, each if it is present:
whether the service exists, and without regard to owners, which addresses serve the port. -/
structure PortSnapshot.Reflects (snap : PortSnapshot) (svc : Option ServiceObject)
    (eps : Option EndpointsObject) : Prop where
  exists_ : snap.exists_ = true ↔ ∃ o, svc = some o
  present : ∀ o e, svc = some o → eps = some e →
    (∀ addr, addr ∈ snap.endpoints.map (·.addr) ↔
      EndpointSubset.Serve e.subsets (o.targetPort snap.port) addr) ∧
    snap.resourceVersion = e.meta_.resourceVersion
  absent : svc = none ∨ eps = none → snap.endpoints = [] ∧ snap.resourceVersion = none

namespace ServiceState

variable {s : ServiceState} {svc : Option ServiceObject} {eps : Option EndpointsObject}

/-- The target of a port is read off the applied service resource. -/
theorem Tracks.targetPort {o : ServiceObject} (h : s.Tracks (some o) eps) (p : Port) :
    s.targetPort p = o.targetPort p := by
  have hd : s.declared = some (declaredPorts o) := h.declared
  rw [ServiceState.targetPort, hd, Option.bind_some, getElem?_declaredPorts,
    Cluster.ServiceObject.targetPort]
  cases o.declaration? p <;> rfl

theorem Tracks.reflects (h : s.Tracks svc eps) {ps : PortState} {p : Port} (hps : ps.Agrees s p)
    (service : ServiceRef) : (ps.snapshot service p).Reflects svc eps where
  exists_ := by
    change ps.exists_ = true ↔ _
    rw [hps.exists_, ServiceState.exists_, h.declared, Option.isSome_map,
      Option.isSome_iff_exists]
  present := by
    rintro o e rfl rfl
    have hd : s.declared = some (declaredPorts o) := h.declared
    have hb : s.backends = some (Backends.ofObject e) := h.backends
    refine ⟨fun addr => ?_, ?_⟩
    · change addr ∈ ps.addrs.endpoints.map (·.addr) ↔ _
      rw [AddressMap.mem_map_endpoints, hps.mem_addrs, hd, hb, h.targetPort]
      simp only [Option.some.injEq, exists_and_left, exists_eq_left']
      rfl
    · change ps.resourceVersion = _
      rw [hps.resourceVersion, ServiceState.resourceVersion, hd, hb]
      rfl
  absent := by
    intro hnone
    have hmissing : s.declared = none ∨ s.backends = none := by
      rw [h.declared, h.backends]
      simpa using hnone
    refine ⟨?_, ?_⟩
    · change ps.addrs.endpoints = []
      rw [← List.map_eq_nil_iff, List.eq_nil_iff_forall_not_mem]
      intro addr haddr
      rw [AddressMap.mem_map_endpoints, hps.mem_addrs] at haddr
      obtain ⟨ports, b, hd, hb, -⟩ := haddr
      rcases hmissing with hmissing | hmissing
      · rw [hd] at hmissing
        cases hmissing
      · rw [hb] at hmissing
        cases hmissing
    · change ps.resourceVersion = none
      rw [hps.resourceVersion, ServiceState.resourceVersion]
      rcases hmissing with hmissing | hmissing
      · rw [hmissing]
      · rw [hmissing]
        cases s.declared <;> rfl

/-- States that agree with services of the same resources have the same addresses. -/
theorem Tracks.mem_addrs_iff {s' : ServiceState} (h : s.Tracks svc eps) (h' : s'.Tracks svc eps)
    {ps ps' : PortState} {p : Port} (hps : ps.Agrees s p) (hps' : ps'.Agrees s' p)
    (addr : SocketAddr) : addr ∈ ps.addrs ↔ addr ∈ ps'.addrs := by
  rw [hps.mem_addrs, hps'.mem_addrs, ServiceState.targetPort, ServiceState.targetPort, h.declared,
    h.backends, h'.declared, h'.backends]

end ServiceState

namespace Index

/-- The listed reports are those of the ports whose state is kept. -/
theorem mem_snapshots {ix : Index} {snap : PortSnapshot} :
    snap ∈ ix.snapshots ↔ ∃ s p ps, ix.port? (s, p) = some ps ∧ ps.snapshot s p = snap := by
  simp only [snapshots, List.mem_flatMap, List.mem_map, Prod.exists,
    TreeMap.mem_toList_iff_getElem?_eq_some, port?_eq_some]
  constructor
  · rintro ⟨s, state, hstate, p, ps, hps, heq⟩
    exact ⟨s, p, ps, ⟨state, hstate, hps⟩, heq⟩
  · rintro ⟨s, p, ps, ⟨state, hstate, hps⟩, heq⟩
    exact ⟨s, state, hstate, p, ps, hps, heq⟩

/-- What is reported of all ports with a state is reported of each of them. -/
theorem eq_snapshot_of_mem_snapshots {ix : Index} {snap : PortSnapshot}
    (h : snap ∈ ix.snapshots) : snap = ix.snapshot snap.service snap.port := by
  obtain ⟨s, p, ps, hps, rfl⟩ := mem_snapshots.mp h
  change _ = (ix.current (s, p)).snapshot s p
  rw [current_of_port? hps]

/-- After every run, the report of every service port, whether or not its state is kept, is what the
service and endpoints resources decide that are applied and not deleted since. The list of reports
has no other ones. Runs that end with the same resources of a service report the same addresses. -/
theorem snapshot_reflects_applied (c : ClusterInfo) (ops : List Operation) :
    (∀ s p,
      (((start c).run ops).snapshot s p).service = s ∧
      (((start c).run ops).snapshot s p).port = p ∧
      (((start c).run ops).snapshot s p).Reflects (appliedService ops s)
        (appliedEndpoints ops s)) ∧
    (∀ snap ∈ ((start c).run ops).snapshots,
      snap = ((start c).run ops).snapshot snap.service snap.port) ∧
    ∀ c' ops' s p, appliedService ops' s = appliedService ops s →
      appliedEndpoints ops' s = appliedEndpoints ops s →
      (((start c').run ops').snapshot s p).endpoints.map (·.addr) =
        (((start c).run ops).snapshot s p).endpoints.map (·.addr) := by
  refine ⟨fun s p => ?_, fun snap => eq_snapshot_of_mem_snapshots, ?_⟩
  · have h := tracks_applied c ops s
    exact ⟨rfl, rfl, h.reflects (h.port s.ns _ p) s⟩
  · intro c' ops' s p hsvc heps
    have h := tracks_applied c ops s
    have h' := tracks_applied c' ops' s
    rw [hsvc, heps] at h'
    exact AddressMap.map_addr_endpoints_congr
      (h'.mem_addrs_iff h (h'.port s.ns _ p) (h.port s.ns _ p))

/-- Endpoints that are older than their service, and a service that comes back while a listener
waits, make no difference. -/
theorem snapshot_reflects_applied_web :
    let ops := [.apply (.service Sample.service), .apply (.endpoints Sample.endpoints)]
    let ops' := [.apply (.endpoints Sample.endpoints), .subscribeEndpoints Sample.web .http,
      .apply (.service Sample.service), .delete .service "ns" "web",
      .apply (.service Sample.service)]
    (((start {}).run ops').snapshot Sample.web .http).endpoints.map (·.addr) =
        (((start {}).run ops).snapshot Sample.web .http).endpoints.map (·.addr) ∧
      (((start {}).run ops).snapshot Sample.web .http).endpoints.map (·.addr) =
        [Sample.backend] := by
  intro ops ops'
  have hsvc : appliedService ops' Sample.web = appliedService ops Sample.web := by rfl
  have heps : appliedEndpoints ops' Sample.web = appliedEndpoints ops Sample.web := by rfl
  refine ⟨(snapshot_reflects_applied {} ops).2.2 {} ops' Sample.web .http hsvc heps, ?_⟩
  decide +kernel

end Index

end MeshDestination
