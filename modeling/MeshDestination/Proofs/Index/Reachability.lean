import MeshDestination.Proofs.Index.Owners

/-!
# Pods decide owners only

Whatever happens to pods and replica sets, the addresses behind a service port stay, and so do its
existence and its version (`reach_onPods`). Services are computed anew, but the states of their
ports already have every address that a new computation finds (`ServiceState.Tracks`), so listeners
are told of other owners and of nothing else (`EndpointsEvent.Reowns`).
-/

namespace MeshDestination

open Net Cluster Std

/-! ## States with the same addresses -/

/-- An event that says nothing but that endpoints of a set have other owners now. -/
def EndpointsEvent.Reowns (e : EndpointsEvent) (old new : AddressMap) : Prop :=
  ∃ plus, e = .update plus [] ∧ plus ≠ [] ∧ ∀ ep ∈ plus, new[ep.addr]? = some ep.owner ∧
    ∃ owner, old[ep.addr]? = some owner ∧ owner ≠ ep.owner

namespace PortState

theorem removed_of_mem_iff {old new : AddressMap} (h : ∀ addr, addr ∈ new ↔ addr ∈ old) :
    removed old new = [] := by
  rw [List.eq_nil_iff_forall_not_mem]
  intro e he
  obtain ⟨hold, hnew⟩ := mem_removed.mp he
  have hmem : e.addr ∈ old := by
    rw [TreeMap.mem_iff_isSome_getElem?, hold]
    rfl
  rw [← h, TreeMap.mem_iff_isSome_getElem?, hnew] at hmem
  cases hmem

theorem isEmpty_eq_of_mem_iff {old new : AddressMap} (h : ∀ addr, addr ∈ new ↔ addr ∈ old) :
    new.isEmpty = old.isEmpty := by
  rw [Bool.eq_iff_iff, TreeMap.isEmpty_iff_forall_not_mem, TreeMap.isEmpty_iff_forall_not_mem]
  exact forall_congr' fun addr => not_congr (h addr)

/-- Where neither addresses nor existence change, listeners are told of owners only. -/
theorem reowns_of_mem_changes {old new : PortState}
    (haddrs : ∀ addr, addr ∈ new.addrs ↔ addr ∈ old.addrs) (hexists : new.exists_ = old.exists_)
    {e : EndpointsEvent} (he : e ∈ changes old new) : e.Reowns old.addrs new.addrs := by
  have hremoved := removed_of_mem_iff haddrs
  have hnone : (new.addrs.isEmpty && (!old.addrs.isEmpty || old.exists_ != new.exists_)) =
      false := by
    rw [isEmpty_eq_of_mem_iff haddrs, hexists]
    cases old.addrs.isEmpty <;> simp
  rw [changes, hnone, if_neg Bool.false_ne_true, List.append_nil, difference, hremoved] at he
  split at he
  · cases he
  · next hdiffer =>
    obtain rfl := List.mem_singleton.mp he
    refine ⟨added old.addrs new.addrs, rfl, fun hnil => hdiffer hnil rfl, fun ep hep => ?_⟩
    obtain ⟨hnew, hold⟩ := mem_added.mp hep
    have hmem : ep.addr ∈ old.addrs := by
      rw [← haddrs, TreeMap.mem_iff_isSome_getElem?, hnew]
      rfl
    obtain ⟨owner, howner⟩ :=
      Option.isSome_iff_exists.mp (TreeMap.mem_iff_isSome_getElem?.mp hmem)
    refine ⟨hnew, owner, howner, ?_⟩
    rintro rfl
    exact hold howner

end PortState

/-! ## Services of the same resources -/

/-- Two reports of the same addresses, the same existence and the same version. -/
structure PortSnapshot.Concurs (snap snap' : PortSnapshot) : Prop where
  addrs : snap.endpoints.map (·.addr) = snap'.endpoints.map (·.addr)
  exists_ : snap.exists_ = snap'.exists_
  resourceVersion : snap.resourceVersion = snap'.resourceVersion

namespace ServiceState.Tracks

variable {s s' : ServiceState} {svc : Option ServiceObject} {eps : Option EndpointsObject}

theorem exists_eq (h : s.Tracks svc eps) (h' : s'.Tracks svc eps) : s'.exists_ = s.exists_ := by
  rw [ServiceState.exists_, ServiceState.exists_, h.declared, h'.declared]

theorem resourceVersion_eq (h : s.Tracks svc eps) (h' : s'.Tracks svc eps) :
    s'.resourceVersion = s.resourceVersion := by
  rw [ServiceState.resourceVersion, ServiceState.resourceVersion, h.declared, h'.declared,
    h.backends, h'.backends]

end ServiceState.Tracks

namespace Index

theorem concurs_of_tracks {ix ix' : Index} {s : ServiceRef} {svc : Option ServiceObject}
    {eps : Option EndpointsObject} (h : (ix.service s).Tracks svc eps)
    (h' : (ix'.service s).Tracks svc eps) (p : Port) :
    (ix'.snapshot s p).Concurs (ix.snapshot s p) where
  addrs := AddressMap.map_addr_endpoints_congr
    (h'.mem_addrs_iff h (h'.port s.ns _ p) (h.port s.ns _ p))
  exists_ := (h'.port s.ns _ p).exists_.trans
    ((h.exists_eq h').trans (h.port s.ns _ p).exists_.symm)
  resourceVersion := (h'.port s.ns _ p).resourceVersion.trans
    ((h.resourceVersion_eq h').trans (h.port s.ns _ p).resourceVersion.symm)

/-- Where a service keeps its resources, listeners to its ports are told of owners only. -/
theorem reowns_of_tracks {before after : Index} {s : ServiceRef} {svc : Option ServiceObject}
    {eps : Option EndpointsObject} (h : (before.service s).Tracks svc eps)
    (h' : (after.service s).Tracks svc eps) {p : Port} {e : EndpointsEvent}
    (he : e ∈ changesAt before after (s, p)) :
    ∃ old new, before.port? (s, p) = some old ∧ after.port? (s, p) = some new ∧
      e.Reowns old.addrs new.addrs := by
  unfold changesAt at he
  split at he
  · next old new hold hnew =>
    have hagrees := h.ports p old ((getElem?_ports_service before (s, p)).trans hold)
    have hagrees' := h'.ports p new ((getElem?_ports_service after (s, p)).trans hnew)
    refine ⟨old, new, hold, hnew, PortState.reowns_of_mem_changes ?_ ?_ he⟩
    · exact h'.mem_addrs_iff h hagrees' hagrees
    · exact hagrees'.exists_.trans ((h.exists_eq h').trans hagrees.exists_.symm)
  · cases he

/-! ## Operations on pods -/

theorem changesAt_of_same {before after : Index} (h : after.services = before.services) :
    changesAt before after = fun _ => [] := by
  funext topic
  have hports : after.port? topic = before.port? topic := by rw [port?, port?, h]
  rw [changesAt, hports]
  cases before.port? topic with
  | none => rfl
  | some ps => exact PortState.changes_self ps

theorem publish_of_same {before after : Index} (services : after.services = before.services)
    (subs : after.endpointSubs = before.endpointSubs) :
    after.endpointSubs = before.endpointSubs.publish (changesAt before after) := by
  rw [changesAt_of_same services, Subscriptions.publish_nil, subs]

/-- An operation on replica sets changes nothing but what is known of pods. -/
theorem perform_onReplicaSets (ix : Index) {op : Operation} (hop : op.OnReplicaSets) :
    ix.perform op = { ix with pods := ix.pods.after op } := by
  have hperform (h : ∃ pods, ix.perform op = { ix with pods }) :
      ix.perform op = { ix with pods := ix.pods.after op } := by
    obtain ⟨pods, heq⟩ := h
    rw [← pods_perform, heq]
  apply hperform
  unfold Operation.OnReplicaSets at hop
  split at hop
  · next o =>
    change ∃ pods, (ix.apply (.replicaSet o)).1 = _
    unfold apply
    split <;> exact ⟨_, rfl⟩
  · exact ⟨_, rfl⟩
  · exact hop.elim

/-- What an operation on pods publishes is how the ports have changed. -/
theorem publish_onPods (ix : Index) {op : Operation} (hop : op.OnPods) :
    (ix.perform op).endpointSubs = ix.endpointSubs.publish (changesAt ix (ix.perform op)) := by
  by_cases hsets : op.OnReplicaSets
  · rw [perform_onReplicaSets ix hsets]
    exact publish_of_same rfl rfl
  · rcases Operation.onPods_cases hop hsets with ⟨o, rfl⟩ | ⟨ns, name, rfl⟩
    · change (ix.apply (.pod o)).1.endpointSubs =
        ix.endpointSubs.publish (changesAt ix (ix.apply (.pod o)).1)
      unfold apply
      split
      · rfl
      · exact publish_of_same rfl rfl
    · rfl

theorem record_onPods {op : Operation} (hop : op.OnPods) (key : ObjectKey)
    (svc : Option ServiceObject) (eps : Option EndpointsObject) :
    record Resource.service? .service key svc op = svc ∧
      record Resource.endpoints? .endpoints key eps op = eps := by
  unfold Operation.OnPods at hop
  split at hop
  · simp [record, Resource.service?, Resource.endpoints?]
  · simp [record, Resource.service?, Resource.endpoints?]
  · simp [record]
  · simp [record]
  · exact hop.elim

/-- An operation on pods leaves every service with its resources. -/
theorem tracks_onPods {ix : Index} {s : ServiceRef} {svc : Option ServiceObject}
    {eps : Option EndpointsObject} (h : (ix.service s).Tracks svc eps) {op : Operation}
    (hop : op.OnPods) : ((ix.perform op).service s).Tracks svc eps := by
  obtain ⟨hsvc, heps⟩ := record_onPods hop ⟨s.ns, s.name⟩ svc eps
  have hperform := tracks_perform h op
  rwa [hsvc, heps] at hperform

theorem profileSubs_onPods (ix : Index) {op : Operation} (hop : op.OnPods) :
    (ix.perform op).profileSubs = ix.profileSubs := by
  by_cases hsets : op.OnReplicaSets
  · rw [perform_onReplicaSets ix hsets]
  · rcases Operation.onPods_cases hop hsets with ⟨o, rfl⟩ | ⟨ns, name, rfl⟩
    · change (ix.apply (.pod o)).1.profileSubs = ix.profileSubs
      unfold apply
      split <;> rfl
    · rfl

/-- After every run, an operation on a pod or a replica set changes no address, existence or version
of any service port. Each event that it publishes says that endpoints which the port has already
have other owners now, and an operation on a replica set publishes none. -/
theorem reach_onPods (c : ClusterInfo) (ops : List Operation) {op : Operation} (hop : op.OnPods) :
    let before := (start c).run ops
    let after := before.perform op
    (∀ s p, (after.snapshot s p).Concurs (before.snapshot s p)) ∧
    (∃ events : PortRef → List EndpointsEvent,
      after.endpointSubs = before.endpointSubs.publish events ∧
      (∀ topic, ∀ e ∈ events topic, ∃ old new, before.port? topic = some old ∧
        after.port? topic = some new ∧ e.Reowns old.addrs new.addrs) ∧
      (op.OnReplicaSets → ∀ topic, events topic = [])) ∧
    after.profileSubs = before.profileSubs := by
  intro before after
  have htracks (s : ServiceRef) := tracks_applied c ops s
  refine ⟨fun s p => concurs_of_tracks (htracks s) (tracks_onPods (htracks s) hop) p,
    ⟨changesAt before after, publish_onPods before hop, ?_, ?_⟩, profileSubs_onPods before hop⟩
  · rintro ⟨s, p⟩ e he
    exact reowns_of_tracks (htracks s) (tracks_onPods (htracks s) hop) he
  · intro hsets topic
    have hservices : after.services = before.services := by
      rw [show after = _ from perform_onReplicaSets before hsets]
    rw [changesAt_of_same hservices]

/-- A listener learns that the pod behind its endpoint is gone; the endpoint stays. -/
theorem reach_onPods_web :
    let ops := [.apply (.pod (Sample.pod "ns")), .apply (.service Sample.service),
      .apply (.endpoints Sample.endpoints), .subscribeEndpoints Sample.web .http]
    let op : Operation := .delete .pod "ns" "web-0"
    let before := (start {}).run ops
    let after := before.perform op
    op.OnPods ∧
    after.endpointSubs.entries.map (·.log) =
      [[.update [⟨Sample.backend, some ⟨"ns", "web-0", "pod", "web-0"⟩⟩] [],
        .update [⟨Sample.backend, none⟩] []]] ∧
    (after.snapshot Sample.web .http).Concurs (before.snapshot Sample.web .http) := by
  intro ops op before after
  refine ⟨trivial, by decide +kernel, ?_⟩
  exact (reach_onPods {} ops (show op.OnPods from trivial)).1 Sample.web .http

end Index

end MeshDestination
