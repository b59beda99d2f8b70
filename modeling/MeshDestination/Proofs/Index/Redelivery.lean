import MeshDestination.Proofs.Index.Arrival
import MeshDestination.Proofs.Index.Convergence
import MeshDestination.Proofs.Index.Reachability

/-!
# Resources that are delivered again

Nothing comes of a resource that is applied a second time, nor of the deletion of what is not
applied (`Index.redelivered_silent`). When the resource is applied again, services are refreshed
again, but no others than the first time, and these are as their resources and the pods have it
already (`Index.Repeats`). The deletion of what is not applied leaves every service with its
resources.
-/

namespace MeshDestination

open Net Number Cluster Std
open scoped Std.TreeMap

/-! ## Pods -/

namespace PodNamespace

variable {n n' : PodNamespace}

theorem Alike.trans {n'' : PodNamespace} (h : n''.Alike n') (h' : n'.Alike n) : n''.Alike n where
  pods name := (h.pods name).trans (h'.pods name)
  podsByIp ip := (h.podsByIp ip).trans (h'.podsByIp ip)
  replicaSets name := (h.replicaSets name).trans (h'.replicaSets name)

theorem Alike.workload (h : n'.Alike n) (name : String) (pod : PodState) :
    n'.workload name pod = n.workload name pod := by
  simp only [PodNamespace.workload, h.replicaSets]

theorem Alike.listNamespace (h : n'.Alike n) (ns : String) :
    Pods.listNamespace n' ns = Pods.listNamespace n ns := by
  have hpods : n'.pods ~m n.pods := TreeMap.Equiv.of_forall_constGet?_eq h.pods
  simp only [Pods.listNamespace, hpods.toList_eq, h.workload]

/-- A pod that is recorded as it is loses no address. -/
theorem lostIp?_insertPod (n : PodNamespace) (name : String) (pod : PodState) :
    (n.insertPod name pod).lostIp? name pod = none := by
  rw [Option.eq_none_iff_forall_ne_some]
  intro ip hip
  rw [lostIp?_eq_some, pods_insertPod, TreeMap.getElem?_insert_self] at hip
  obtain ⟨⟨old, hold, hheld⟩, hlost⟩ := hip
  cases hold
  exact hlost hheld

theorem alike_insertPod_again (n : PodNamespace) (name : String) (pod : PodState) :
    ((n.insertPod name pod).insertPod name pod).Alike (n.insertPod name pod) where
  pods name' := by
    simp only [pods_insertPod, TreeMap.getElem?_insert, LawfulEqCmp.compare_eq_iff_eq]
    split <;> rfl
  podsByIp ip := by
    rw [getElem?_podsByIp_insertPod (n.insertPod name pod), lostIp?_insertPod]
    by_cases hip : pod.ip = some ip
    · rw [getElem?_podsByIp_insertPod, if_pos hip, if_pos hip]
    · rw [if_neg hip, if_neg (by simp)]
  replicaSets name' := by simp only [replicaSets_insertPod]

end PodNamespace

namespace Pods

/-- Two states of knowledge that answer and list alike. -/
structure Repeats (p p' : Pods) : Prop where
  alike : Alike p' p
  list (q : Option String) : p'.list q = p.list q

theorem Repeats.refl (p : Pods) : Repeats p p := ⟨fun _ => .refl _, fun _ => rfl⟩

theorem list_insert_of_alike {p : Pods} {ns : String} {n n' : PodNamespace}
    (hn : p.namespaces[ns]? = some n) (h : n'.Alike n) (q : Option String) :
    (p.insert ns n').list q = p.list q := by
  let summaries (p : Pods) := p.namespaces.map fun ns n => listNamespace n ns
  have hlist (p : Pods) : p.list q = (summaries p).toList.flatMap fun (podNs, pods) =>
      if q.getD podNs = podNs then pods else [] := by
    rw [TreeMap.toList_map, List.flatMap_map]
    rfl
  have hsummaries : summaries (p.insert ns n') ~m summaries p := by
    refine TreeMap.Equiv.of_forall_constGet?_eq fun ns' => ?_
    simp only [summaries, insert, TreeMap.getElem?_map, TreeMap.getElem?_insert,
      LawfulEqCmp.compare_eq_iff_eq]
    split
    · next hns =>
      subst hns
      rw [hn, Option.map_some, Option.map_some, h.listNamespace]
    · rfl
  rw [hlist, hlist, hsummaries.toList_eq]

/-- A namespace is changed a second time in the same way, which makes no difference to it. -/
theorem repeats_insert_again (p : Pods) (ns : String) {f : PodNamespace → PodNamespace}
    (hf : ∀ n, (f (f n)).Alike (f n)) :
    Repeats (p.insert ns (f (p.get ns)))
      ((p.insert ns (f (p.get ns))).insert ns (f ((p.insert ns (f (p.get ns))).get ns))) := by
  rw [get_insert p ns ns, if_pos rfl]
  refine ⟨fun ns' => ?_, list_insert_of_alike TreeMap.getElem?_insert_self (hf _)⟩
  rw [get_insert (p.insert ns _), get_insert p]
  split
  · exact hf _
  · exact .refl _

theorem repeats_after (p : Pods) (r : Resource) :
    Repeats (p.after (.apply r)) ((p.after (.apply r)).after (.apply r)) := by
  cases r with
  | pod o =>
    cases hname : o.meta_.name with
    | some name =>
      simp only [after, hname]
      exact p.repeats_insert_again _ (f := (·.insertPod name (PodState.ofObject o)))
        fun n => n.alike_insertPod_again name _
    | none =>
      simp only [after, hname]
      exact .refl p
  | replicaSet o =>
    cases hname : o.meta_.name with
    | some name =>
      simp only [after, hname]
      refine p.repeats_insert_again _
        (f := fun n => { n with replicaSets := n.replicaSets.insert name o.meta_.owners })
        fun n => ⟨fun _ => rfl, fun _ => rfl, fun name' => ?_⟩
      simp only [TreeMap.getElem?_insert, LawfulEqCmp.compare_eq_iff_eq]
      split <;> rfl
    | none =>
      simp only [after, hname]
      exact p.repeats_insert_again _ (f := id) fun n => .refl n
  | service | endpoints | serviceProfile => exact .refl p

end Pods

/-! ## Services -/

theorem Backends.addrs_congr {p p' : Pods} (h : Pods.Alike p' p) (b : Backends) (ns : String)
    (target : TargetPort) : b.addrs ns target p' = b.addrs ns target p := by
  simp only [Backends.addrs, Backends.endpointsOf, h.resolve]

theorem Backends.mentions_mono {b : Backends} {ips ips' : List Ip} (hips : ips ⊆ ips')
    (h : b.mentions ips = true) : b.mentions ips' = true := by
  simp only [Backends.mentions, List.any_eq_true] at h ⊢
  obtain ⟨subset, hsubset, a, ha, hlisted⟩ := h
  refine ⟨subset, hsubset, a, ha, ?_⟩
  cases hip : Ip.ofText? a.ip with
  | none => simp [hip] at hlisted
  | some ip =>
    simp only [hip, List.contains_iff_mem] at hlisted ⊢
    exact hips hlisted

namespace ServiceState

variable {s : ServiceState} {ns : String} {pods pods' : Pods}

theorem portState_congr (h : Pods.Alike pods' pods) (s : ServiceState) (ns : String) (p : Port)
    (n : Nat) : s.portState ns pods' p n = s.portState ns pods p n := by
  simp only [portState, addrs, Backends.addrs_congr h]

/-- The declared ports have a state, and every state is what is computed from the resources. -/
structure Computed (s : ServiceState) (ns : String) (pods : Pods) : Prop where
  complete : ∀ p, s.declares p = true → ∃ ps, s.ports[p]? = some ps
  ports : ∀ p ps, s.ports[p]? = some ps → ps = s.portState ns pods p ps.nextNumber

theorem computed_refresh (s : ServiceState) (ns : String) (pods : Pods) (watched : Port → Bool) :
    (s.refresh ns pods watched).Computed ns pods where
  complete p hp := by
    have hdeclared : s.declares p = true := hp
    rw [getElem?_ports_refresh]
    cases s.ports[p]? with
    | none => exact ⟨_, if_pos hdeclared⟩
    | some ps => exact ⟨_, if_pos (by rw [hdeclared, Bool.true_or])⟩
  ports p ps hps := by
    obtain ⟨n, rfl⟩ := portState_of_refresh hps
    rfl

/-- When a computed service is refreshed, its ports stay as they are, as far as they stay. -/
theorem Computed.getElem?_ports_refresh (h : s.Computed ns pods) (hpods : Pods.Alike pods' pods)
    (watched : Port → Bool) (p : Port) :
    (s.refresh ns pods' watched).ports[p]? =
      s.ports[p]?.filter fun _ => s.declares p || watched p := by
  rw [ServiceState.getElem?_ports_refresh]
  cases hp : s.ports[p]? with
  | none =>
    refine if_neg fun hdeclared => ?_
    obtain ⟨ps, hps⟩ := h.complete p hdeclared
    rw [hp] at hps
    cases hps
  | some ps =>
    simp only [portState_congr hpods, ← h.ports p ps hp, Option.filter_some]

end ServiceState

namespace Index

theorem snapshot_congr {before after : Index} (hpods : Pods.Alike after.pods before.pods)
    {s : ServiceRef} (hs : after.service s = before.service s) (p : Port) :
    after.snapshot s p = before.snapshot s p := by
  change ((after.service s).port s.ns after.pods p).snapshot s p = _
  rw [hs, ServiceState.port, ServiceState.portState_congr hpods]
  rfl

/-- From `before` to `after` no more happens than that computed services are refreshed. -/
structure Repeats (before after : Index) : Prop where
  pods : Pods.Alike after.pods before.pods
  services : ∀ s, after.service s = before.service s ∨
    (before.service s).Computed s.ns before.pods ∧
      after.service s = (before.service s).refresh s.ns after.pods (before.watched s)

namespace Repeats

variable {before after : Index}

theorem portState (h : Repeats before after) (s : ServiceRef) (p : Port) (n : Nat) :
    (after.service s).portState s.ns after.pods p n =
      (before.service s).portState s.ns before.pods p n := by
  rw [ServiceState.portState_congr h.pods]
  rcases h.services s with hs | ⟨-, hs⟩
  · rw [hs]
  · rw [hs]
    rfl

/-- Every port is as it was, or is gone and nothing needs it. -/
theorem port? (h : Repeats before after) (s : ServiceRef) (p : Port) :
    after.port? (s, p) = before.port? (s, p) ∨
      after.port? (s, p) = none ∧ (before.service s).declares p = false ∧
        before.watched s p = false := by
  have hports (ix : Index) : ix.port? (s, p) = (ix.service s).ports[p]? :=
    (getElem?_ports_service ix (s, p)).symm
  rw [hports, hports]
  rcases h.services s with hs | ⟨hcomputed, hs⟩
  · exact .inl (by rw [hs])
  · rw [hs, hcomputed.getElem?_ports_refresh h.pods]
    cases (before.service s).ports[p]? with
    | none => exact .inl rfl
    | some ps =>
      rw [Option.filter_some]
      by_cases hneeded : ((before.service s).declares p || before.watched s p) = true
      · exact .inl (if_pos hneeded)
      · exact .inr ⟨if_neg hneeded, by simpa using hneeded⟩

theorem changesAt (h : Repeats before after) : changesAt before after = fun _ => [] := by
  funext ⟨s, p⟩
  rw [Index.changesAt]
  rcases h.port? s p with hp | ⟨hp, -⟩
  · rw [hp]
    cases before.port? (s, p) with
    | none => rfl
    | some ps => exact PortState.changes_self ps
  · rw [hp]
    cases before.port? (s, p) <;> rfl

theorem snapshot (h : Repeats before after) (s : ServiceRef) (p : Port) :
    after.snapshot s p = before.snapshot s p := by
  rcases h.services s with hs | ⟨hcomputed, hs⟩
  · exact snapshot_congr h.pods hs p
  · have hsnapshot (ix : Index) : ix.snapshot s p = (((ix.service s).ports[p]?).getD
        ((ix.service s).portState s.ns ix.pods p 0)).snapshot s p := by
      rw [← TreeMap.getD_eq_getD_getElem?]
      rfl
    rw [hsnapshot, hsnapshot, h.portState, hs, hcomputed.getElem?_ports_refresh h.pods]
    cases hp : (before.service s).ports[p]? with
    | none => rfl
    | some ps =>
      -- A port that is gone is reported as it is computed, and that is how it was.
      rw [Option.filter_some]
      split
      · rfl
      · rw [Option.getD_none, Option.getD_some, hcomputed.ports p ps hp]
        rfl

end Repeats

/-- A service is given the same resource twice; `f` records it. -/
theorem repeats_refreshService (ix : Index) (s : ServiceRef) {f : ServiceState → ServiceState}
    (hf : ∀ (state : ServiceState) (ns : String) (pods : Pods) (watched : Port → Bool),
      f ((f state).refresh ns pods watched) = (f state).refresh ns pods watched) :
    let first := ix.refreshService s (f (ix.service s))
    Repeats first (first.refreshService s (f (first.service s))) := by
  intro first
  have hfirst : first.service s = (f (ix.service s)).refresh s.ns ix.pods (ix.watched s) :=
    (service_refreshService ix s s _).trans (if_pos rfl)
  refine ⟨fun _ => .refl _, fun s' => ?_⟩
  rw [service_refreshService]
  split
  · next hs =>
    subst hs
    rw [hfirst, hf]
    exact .inr ⟨ServiceState.computed_refresh _ _ _ _, rfl⟩
  · exact .inl rfl

/-- Services are computed anew that list some addresses, and then those that list some of these. -/
theorem repeats_reresolve (ix : Index) {pods : Pods} (hpods : Pods.Alike pods ix.pods) (ns : String)
    {ips ips' : List Ip} (hips : ips' ⊆ ips) :
    Repeats (ix.reresolve ns ips)
      (({ ix.reresolve ns ips with pods := pods } : Index).reresolve ns ips') where
  pods := hpods
  services s := by
    rcases service_reresolve { ix.reresolve ns ips with pods := pods } s ns ips' with
      ⟨b, hb, hns, hmentions, hagain⟩ | ⟨-, hagain⟩
    · refine .inr ⟨?_, hagain⟩
      rcases service_reresolve ix s ns ips with ⟨-, -, -, -, hfirst⟩ | ⟨hunlisted, hfirst⟩
      · rw [hfirst]
        exact ServiceState.computed_refresh _ _ _ _
      · have hbefore : (ix.service s).backends = some b :=
          (congrArg ServiceState.backends hfirst).symm.trans hb
        have hmiss := hunlisted b hbefore hns
        rw [Backends.mentions_mono hips hmentions] at hmiss
        cases hmiss
    · exact .inl hagain

theorem repeats_applyPod (ix : Index) (ns name : String) (pod : PodState)
    (hpods : Pods.Alike ((ix.applyPod ns name pod).applyPod ns name pod).pods
      (ix.applyPod ns name pod).pods) :
    Repeats (ix.applyPod ns name pod) ((ix.applyPod ns name pod).applyPod ns name pod) := by
  refine repeats_reresolve { ix with pods := ix.pods.insertPod ns name pod } hpods ns ?_
  have hget : (ix.pods.insertPod ns name pod).get ns = (ix.pods.get ns).insertPod name pod :=
    (Pods.get_insert _ _ _ _).trans (if_pos rfl)
  change (ix.pods.insertPod ns name pod).affectedIps ns name pod ⊆ _
  rw [Pods.affectedIps, hget, PodNamespace.lostIp?_insertPod]
  exact List.subset_append_right _ _

theorem repeats_of_same {before after : Index} (services : after.services = before.services)
    (pods : Pods.Alike after.pods before.pods) : Repeats before after :=
  ⟨pods, fun s => .inl (by rw [service, service, services])⟩

theorem repeats_applyNamed (ix : Index) (ns name : String) (r : Resource)
    (hpods : Pods.Alike ((ix.applyNamed ns name r).1.applyNamed ns name r).1.pods
      (ix.applyNamed ns name r).1.pods) :
    Repeats (ix.applyNamed ns name r).1 ((ix.applyNamed ns name r).1.applyNamed ns name r).1 := by
  cases r with
  | service o =>
    exact repeats_refreshService ix ⟨ns, name⟩
      (f := fun state => { state with declared := some (declaredPorts o) }) fun _ _ _ _ => rfl
  | endpoints o =>
    exact repeats_refreshService ix ⟨ns, name⟩
      (f := fun state => { state with backends := some (Backends.ofObject o) }) fun _ _ _ _ => rfl
  | pod o => exact repeats_applyPod ix ns name _ hpods
  | replicaSet o => exact repeats_of_same rfl hpods
  | serviceProfile o =>
    refine repeats_of_same ?_ hpods
    simp only [applyNamed]
    cases Profile.ofSpec o.spec <;> rfl

theorem repeats_apply (ix : Index) (r : Resource) :
    Repeats (ix.apply r).1 ((ix.apply r).1.apply r).1 := by
  have hpods : Pods.Alike ((ix.apply r).1.apply r).1.pods (ix.apply r).1.pods := by
    have hafter (ix : Index) : (ix.apply r).1.pods = ix.pods.after (.apply r) :=
      pods_perform ix (.apply r)
    rw [hafter, hafter]
    exact (ix.pods.repeats_after r).alike
  cases hname : r.meta_.name with
  | some name =>
    simp only [apply, hname] at hpods ⊢
    exact repeats_applyNamed ix _ name r hpods
  | none =>
    refine repeats_of_same ?_ hpods
    simp only [apply, hname]
    cases r <;> rfl

/-- What the application of a resource publishes is how the ports have changed. -/
theorem publish_apply (ix : Index) (r : Resource) :
    (ix.apply r).1.endpointSubs = ix.endpointSubs.publish (changesAt ix (ix.apply r).1) := by
  cases hname : r.meta_.name with
  | some name =>
    simp only [apply, hname]
    cases r with
    | service | endpoints | pod => rfl
    | replicaSet o => exact publish_of_same rfl rfl
    | serviceProfile o =>
      simp only [applyNamed]
      cases Profile.ofSpec o.spec <;> exact publish_of_same rfl rfl
  | none =>
    simp only [apply, hname]
    cases r <;> exact publish_of_same rfl rfl

/-! ## Profiles -/

theorem record_again {α : Type} (pick : Resource → Option α) (kind : Kind) (key : ObjectKey)
    (current : Option α) (r : Resource) :
    record pick kind key (record pick kind key current (.apply r)) (.apply r) =
      record pick kind key current (.apply r) := by
  simp only [record]
  split
  · cases pick r <;> rfl
  · rfl

theorem effective_again (ix : Index) (r : Resource) (c : ClusterInfo) (s : ServiceRef) :
    ((ix.apply r).1.apply r).1.profiles.effective c s = (ix.apply r).1.profiles.effective c s := by
  have hresources (ix : Index) (key : ObjectKey) : (ix.apply r).1.profiles.resources[key]? =
      recordProfile key ix.profiles.resources[key]? (.apply r) := resources_perform ix (.apply r) key
  simp only [Profiles.effective, hresources, recordProfile, record_again]

end Index

namespace Profiles

/-- The profile that governs a service has no retry ratio, or one that is a number. -/
def NumberGoverns (p : Profiles) (c : ClusterInfo) (s : ServiceRef) : Prop :=
  ∀ profile, p.effective c s = some profile → profile.RatioIs (·.isNaN = false)

/-- A profile is recorded twice. The second time, the lookup finds what was found the first time. -/
theorem changes_insert_again (p : Profiles) (c : ClusterInfo) (key : ObjectKey) (profile : Profile)
    (s : ServiceRef) :
    let first := p.insert c key profile
    let again := first.insert c key profile
    again.effective c s = first.effective c s →
      beqOption Profile.beq (first.effective c s) (first.effective c s) = true →
      changes first again c key s = [] := by
  intro first again hsame hself
  have hservices : first.services[s]? =
      p.services[s]?.map (relookup c key s (first.effective c s)) :=
    getElem?_services_replace p c key _ s
  rw [changes, hservices, hsame]
  cases p.services[s]? with
  | none => rfl
  | some state =>
    simp only [Option.map_some, relookup]
    by_cases hfound : (mayGovern c key s && !beqOption Profile.beq state.current
        (first.effective c s)) = true
    · rw [if_pos hfound, hself, Bool.not_true, Bool.and_false, if_neg Bool.false_ne_true]
    · rw [if_neg hfound, if_neg hfound]

end Profiles

namespace Index

/-- A resource records a profile, or listeners to profiles are told nothing. -/
theorem apply_cases (r : Resource) :
    (∀ ix : Index, (ix.apply r).1.profileSubs = ix.profileSubs) ∨
      r.kind = .serviceProfile ∧
        ∃ key profile, ∀ ix : Index, (ix.apply r).1 = ix.applyProfile key profile := by
  cases hname : r.meta_.name with
  | none =>
    refine .inl fun ix => ?_
    simp only [apply, hname]
    cases r <;> rfl
  | some name =>
    simp only [apply, hname]
    cases r with
    | serviceProfile o =>
      simp only [applyNamed]
      cases Profile.ofSpec o.spec with
      | error e => exact .inl fun _ => rfl
      | ok profile => exact .inr ⟨rfl, _, profile, fun _ => rfl⟩
    | service | endpoints | pod | replicaSet => exact .inl fun _ => rfl

/-- Of a resource that is applied again, listeners to profiles are told nothing, unless the profile
that governs their service differs from itself. -/
theorem publish_profiles_again (ix : Index) (r : Resource) :
    let first := (ix.apply r).1
    ∃ events, (first.apply r).1.profileSubs = first.profileSubs.publish events ∧
      ∀ s, (r.kind = .serviceProfile → first.profiles.NumberGoverns ix.cluster s) →
        events s = [] := by
  intro first
  rcases apply_cases r with hspared | ⟨hkind, key, profile, happly⟩
  · exact ⟨fun _ => [], by rw [hspared, Subscriptions.publish_nil], fun _ _ => rfl⟩
  · have heffective := effective_again ix r ix.cluster
    simp only [first, happly] at heffective ⊢
    refine ⟨_, rfl, fun s hnumber => ?_⟩
    refine Profiles.changes_insert_again ix.profiles ix.cluster key profile s (heffective s) ?_
    change beqOption Profile.beq ((ix.applyProfile key profile).profiles.effective ix.cluster s)
      ((ix.applyProfile key profile).profiles.effective ix.cluster s) = true
    cases hgoverns : (ix.applyProfile key profile).profiles.effective ix.cluster s with
    | none => rfl
    | some p => exact (Profile.beq_self_iff p).mpr (hnumber hkind p hgoverns)

/-- Where every applied retry ratio is a number, so is that of the profile that governs a
service. -/
theorem numberGoverns_run (c : ClusterInfo) (ops : List Operation) (hops : ∀ op ∈ ops, op.Proper)
    (s : ServiceRef) : ((start c).run ops).profiles.NumberGoverns c s := by
  intro profile hprofile
  have hself := beq_effective (settled_run c ops hops).regular c s
  rw [hprofile] at hself
  exact (Profile.beq_self_iff profile).mp hself

/-! ## Deletions -/

/-- Whether a resource of some kind is applied under a key and not deleted since. -/
def isApplied (ops : List Operation) (key : ObjectKey) : Kind → Bool
  | .service => (applied Resource.service? .service key ops).isSome
  | .endpoints => (applied Resource.endpoints? .endpoints key ops).isSome
  | .pod => (appliedPod ops key).isSome
  | .replicaSet => (appliedReplicaSet ops key).isSome
  | .serviceProfile => (appliedProfile ops key).isSome

variable {ix : Index} {s : ServiceRef} {svc : Option ServiceObject} {eps : Option EndpointsObject}

/-- Of a service that lacks a resource before and after there is nothing to tell. -/
theorem changesAt_of_absent {before after : Index} (h : (before.service s).Tracks svc eps)
    (h' : (after.service s).Tracks svc eps) (habsent : svc = none ∨ eps = none) (p : Port) :
    changesAt before after (s, p) = [] := by
  rw [List.eq_nil_iff_forall_not_mem]
  intro e he
  obtain ⟨old, new, hold, -, plus, -, hplus, hends⟩ := reowns_of_tracks h h' he
  obtain ⟨ep, hep⟩ := List.exists_mem_of_ne_nil plus hplus
  obtain ⟨-, owner, howner, -⟩ := hends ep hep
  have hmem : ep.addr ∈ old.addrs := by
    rw [TreeMap.mem_iff_isSome_getElem?, howner]
    rfl
  have hagrees := h.ports p old ((getElem?_ports_service before (s, p)).trans hold)
  obtain ⟨ports, b, hdeclared, hbackends, -⟩ := (hagrees.mem_addrs ep.addr).mp hmem
  rcases habsent with rfl | rfl
  · cases hdeclared.symm.trans h.declared
  · cases hbackends.symm.trans h.backends

theorem changesAt_setService_of_absent {state : ServiceState}
    (h : (ix.service s).Tracks svc eps) (h' : state.Tracks svc eps)
    (habsent : svc = none ∨ eps = none) : changesAt ix (ix.setService s state) = fun _ => [] := by
  funext ⟨s', p⟩
  by_cases hs : s = s'
  · subst hs
    refine changesAt_of_absent h ?_ habsent p
    rwa [service_setService, if_pos rfl]
  · exact changesAt_setService_of_ne ix state hs

theorem endpointSubs_deleteService (h : (ix.service s).Tracks none eps) :
    (ix.deleteService s).endpointSubs = ix.endpointSubs := by
  unfold deleteService
  split
  · next state hstate =>
    have hstate' := h
    rw [service_of_getElem? hstate] at hstate'
    change ix.endpointSubs.publish (changesAt ix (ix.setService s state.withoutResource)) = _
    rw [changesAt_setService_of_absent h hstate'.withoutResource (.inl rfl),
      Subscriptions.publish_nil]
  · rfl

theorem endpointSubs_deleteEndpoints (h : (ix.service s).Tracks svc none) :
    (ix.deleteEndpoints s).endpointSubs = ix.endpointSubs := by
  unfold deleteEndpoints
  split
  · next state hstate =>
    have hdeclared : state.declared = svc.map declaredPorts := by
      rw [← h.declared, service_of_getElem? hstate]
    have hrefreshed : ServiceState.Tracks _ svc none := ServiceState.tracks_refresh
      { state with backends := none } hdeclared rfl s.ns ix.pods (ix.watched s)
    change ix.endpointSubs.publish (changesAt ix (ix.setService s _)) = _
    rw [changesAt_setService_of_absent h hrefreshed (.inr rfl), Subscriptions.publish_nil]
  · rfl

theorem erasePod_of_none {ns name : String} (h : ix.pods.pod? ns name = none) :
    ix.pods.erasePod ns name = ix.pods := by
  rw [Pods.erasePod, h]

/-- No service lists an address of a pod that is unknown. -/
theorem service_deletePod_of_none {ns name : String} (h : ix.pods.pod? ns name = none)
    (s : ServiceRef) : (ix.deletePod ns name).service s = ix.service s := by
  have hdelete : ix.deletePod ns name = ix.reresolve ns [] := by
    rw [deletePod, erasePod_of_none h, h]
    rfl
  rw [hdelete]
  rcases service_reresolve ix s ns [] with ⟨b, -, -, hmentions, -⟩ | ⟨-, hs⟩
  · obtain ⟨subset, -, hlisted⟩ := List.any_eq_true.mp hmentions
    obtain ⟨a, -, hip⟩ := List.any_eq_true.mp hlisted
    split at hip <;> cases hip
  · exact hs

/-- What is dropped when services are collected has no service resource. -/
theorem service_collect_of_service {ix' : Index} (h : ix'.service s = ix.service s) :
    ix'.collect.service s = ix.service s ∨ (ix.service s).declared = none := by
  rcases service_collect ix' s with hs | ⟨-, hdeclared, -⟩
  · exact .inl (hs.trans h)
  · exact .inr (h ▸ hdeclared)

theorem service_deleteService_of_ne {s' : ServiceRef} (hs : s' ≠ s) :
    (ix.deleteService s').service s = ix.service s ∨ (ix.service s).declared = none := by
  unfold deleteService
  split
  · refine service_collect_of_service ?_
    rw [service_setService, if_neg hs]
    exact (service_setService ix s' s _).trans (if_neg hs)
  · exact service_collect_of_service rfl

theorem service_deleteEndpoints_of_ne {s' : ServiceRef} (hs : s' ≠ s) :
    (ix.deleteEndpoints s').service s = ix.service s ∨ (ix.service s).declared = none := by
  unfold deleteEndpoints
  split
  · exact service_collect_of_service ((service_refreshService ix s s' _).trans (if_neg hs))
  · exact service_collect_of_service rfl

theorem record_delete_of_none {α : Type} {pick : Resource → Option α} {kind kind' : Kind}
    {key : ObjectKey} {current : Option α} {ns name : String}
    (h : kind' = kind → key = ⟨ns, name⟩ → current = none) :
    record pick kind key current (.delete kind' ns name) = current := by
  rw [record]
  split
  · next hkey => exact (h hkey.1 hkey.2).symm
  · rfl

theorem pod?_of_not_applied (c : ClusterInfo) {ops : List Operation} {ns name : String}
    (h : isApplied ops ⟨ns, name⟩ .pod = false) :
    ((start c).run ops).pods.pod? ns name = none := by
  have happlied : appliedPod ops ⟨ns, name⟩ = none := by simpa [isApplied] using h
  rw [pod?_run c ops ⟨ns, name⟩, happlied]
  rfl

/-- A deletion of what is not applied changes no answer about pods. -/
theorem alike_delete_of_not_applied (c : ClusterInfo) (ops : List Operation) {kind : Kind}
    {ns name : String} (h : isApplied ops ⟨ns, name⟩ kind = false) :
    Pods.Alike (((start c).run ops).delete kind ns name).pods ((start c).run ops).pods := by
  have hpods : (((start c).run ops).delete kind ns name).pods =
      ((start c).run ops).pods.after (.delete kind ns name) := pods_perform _ (.delete kind ns name)
  rw [hpods]
  cases kind with
  | service | endpoints | serviceProfile => exact fun _ => .refl _
  | pod =>
    change Pods.Alike (((start c).run ops).pods.erasePod ns name) _
    rw [erasePod_of_none (pod?_of_not_applied c h)]
    exact fun _ => .refl _
  | replicaSet =>
    have hset : (((start c).run ops).pods.get ns).replicaSets[name]? = none := by
      have happlied : appliedReplicaSet ops ⟨ns, name⟩ = none := by simpa [isApplied] using h
      have hrun := replicaSet?_run c ops ⟨ns, name⟩
      rwa [happlied] at hrun
    intro ns'
    refine .trans (Pods.alike_eraseReplicaSet (sound_run c ops) ns name ns') ?_
    rw [Pods.get_insert]
    split
    · next hns =>
      subst hns
      refine ⟨fun _ => rfl, fun _ => rfl, fun name' => ?_⟩
      simp only [TreeMap.getElem?_erase, LawfulEqCmp.compare_eq_iff_eq]
      split
      · next hname => rw [← hname, hset]
      · rfl
    · exact .refl _

/-- A deletion of what is not applied is told to nobody. -/
theorem subs_delete_of_not_applied (c : ClusterInfo) (ops : List Operation) {kind : Kind}
    {ns name : String} (h : isApplied ops ⟨ns, name⟩ kind = false) :
    (((start c).run ops).delete kind ns name).endpointSubs = ((start c).run ops).endpointSubs ∧
      (((start c).run ops).delete kind ns name).profileSubs = ((start c).run ops).profileSubs := by
  cases kind with
  | service =>
    have htracks := tracks_applied c ops ⟨ns, name⟩
    rw [show appliedService ops ⟨ns, name⟩ = none by
      simpa [isApplied, appliedService] using h] at htracks
    refine ⟨endpointSubs_deleteService htracks, ?_⟩
    change (deleteService _ _).profileSubs = _
    unfold deleteService
    split <;> rfl
  | endpoints =>
    have htracks := tracks_applied c ops ⟨ns, name⟩
    rw [show appliedEndpoints ops ⟨ns, name⟩ = none by
      simpa [isApplied, appliedEndpoints] using h] at htracks
    refine ⟨endpointSubs_deleteEndpoints htracks, ?_⟩
    change (deleteEndpoints _ _).profileSubs = _
    unfold deleteEndpoints
    split <;> rfl
  | pod =>
    have hpod := pod?_of_not_applied c h
    have hrepeats : Repeats ((start c).run ops) (((start c).run ops).deletePod ns name) :=
      ⟨alike_delete_of_not_applied c ops h, fun s => .inl (service_deletePod_of_none hpod s)⟩
    have hpublish := publish_onPods ((start c).run ops)
      (show Operation.OnPods (.delete .pod ns name) from trivial)
    change (deletePod _ ns name).endpointSubs =
      Subscriptions.publish _ (changesAt _ (deletePod _ ns name)) at hpublish
    rw [hrepeats.changesAt, Subscriptions.publish_nil] at hpublish
    exact ⟨hpublish, rfl⟩
  | replicaSet => exact ⟨rfl, rfl⟩
  | serviceProfile =>
    have hprofile : ((start c).run ops).profiles.resources.contains ⟨ns, name⟩ = false := by
      have happlied : appliedProfile ops ⟨ns, name⟩ = none := by simpa [isApplied] using h
      rw [TreeMap.contains_eq_isSome_getElem?, resources_applied, happlied]
      rfl
    have hdelete : ((start c).run ops).deleteProfile ⟨ns, name⟩ = (start c).run ops := by
      rw [deleteProfile, hprofile, if_neg Bool.false_ne_true]
    change (deleteProfile _ _).endpointSubs = _ ∧ (deleteProfile _ _).profileSubs = _
    rw [hdelete]
    exact ⟨rfl, rfl⟩

/-- A deletion of what is not applied leaves every service with its resources. -/
theorem tracks_delete_of_not_applied (c : ClusterInfo) (ops : List Operation) {kind : Kind}
    {ns name : String} (h : isApplied ops ⟨ns, name⟩ kind = false) (s : ServiceRef) :
    ((((start c).run ops).delete kind ns name).service s).Tracks (appliedService ops s)
      (appliedEndpoints ops s) := by
  have hsvc : kind = .service → (⟨s.ns, s.name⟩ : ObjectKey) = ⟨ns, name⟩ →
      appliedService ops s = none := by
    rintro rfl hkey
    simpa [isApplied, appliedService, hkey] using h
  have heps : kind = .endpoints → (⟨s.ns, s.name⟩ : ObjectKey) = ⟨ns, name⟩ →
      appliedEndpoints ops s = none := by
    rintro rfl hkey
    simpa [isApplied, appliedEndpoints, hkey] using h
  have htracks := tracks_delete (tracks_applied c ops s) kind ns name
  rwa [record_delete_of_none hsvc, record_delete_of_none heps] at htracks

/-- A deletion of what is not applied leaves a service as it is, unless a resource of the service is
missing. -/
theorem service_delete_of_not_applied (c : ClusterInfo) (ops : List Operation) {kind : Kind}
    {ns name : String} (h : isApplied ops ⟨ns, name⟩ kind = false) (s : ServiceRef) :
    (((start c).run ops).delete kind ns name).service s = ((start c).run ops).service s ∨
      appliedService ops s = none ∨ appliedEndpoints ops s = none := by
  have hnone (hdeclared : (((start c).run ops).service s).declared = none) :
      appliedService ops s = none :=
    Option.map_eq_none_iff.mp ((tracks_applied c ops s).declared.symm.trans hdeclared)
  cases kind with
  | service =>
    by_cases hs : (⟨ns, name⟩ : ServiceRef) = s
    · subst hs
      exact .inr (.inl (by simpa [isApplied, appliedService] using h))
    · exact (service_deleteService_of_ne hs).imp_right fun hdeclared => .inl (hnone hdeclared)
  | endpoints =>
    by_cases hs : (⟨ns, name⟩ : ServiceRef) = s
    · subst hs
      exact .inr (.inr (by simpa [isApplied, appliedEndpoints] using h))
    · exact (service_deleteEndpoints_of_ne hs).imp_right fun hdeclared => .inl (hnone hdeclared)
  | pod => exact .inl (service_deletePod_of_none (pod?_of_not_applied c h) s)
  | replicaSet => exact .inl rfl
  | serviceProfile =>
    refine .inl ?_
    change (deleteProfile _ _).service s = _
    unfold deleteProfile
    split <;> rfl

/-- A deletion of what is not applied changes no endpoint of any service port: a port whose service
lacks a resource has none. -/
theorem endpoints_delete_of_not_applied (c : ClusterInfo) (ops : List Operation) {kind : Kind}
    {ns name : String} (h : isApplied ops ⟨ns, name⟩ kind = false) (s : ServiceRef) (p : Port) :
    ((((start c).run ops).delete kind ns name).snapshot s p).endpoints =
      (((start c).run ops).snapshot s p).endpoints := by
  rcases service_delete_of_not_applied c ops h s with hs | habsent
  · rw [snapshot_congr (alike_delete_of_not_applied c ops h) hs]
  · have htracks := tracks_applied c ops s
    have htracks' := tracks_delete_of_not_applied c ops h s
    exact ((htracks'.reflects (htracks'.port s.ns _ p) s).absent habsent).1.trans
      ((htracks.reflects (htracks.port s.ns _ p) s).absent habsent).1.symm

/-! ## Deliveries -/

/-- Two states of the index show the same, and list the same ports but for those that are neither
declared nor listened to, which the later one may have dropped. -/
structure Resembles (before after : Index) : Prop where
  snapshot : ∀ s p, after.snapshot s p = before.snapshot s p
  listed : ∀ snap ∈ after.snapshots, snap ∈ before.snapshots
  kept : ∀ snap ∈ before.snapshots, (before.service snap.service).declares snap.port = true ∨
    before.watched snap.service snap.port = true → snap ∈ after.snapshots
  pods : ∀ ns, after.pods.list ns = before.pods.list ns
  effective : ∀ s, after.profiles.effective after.cluster s =
    before.profiles.effective before.cluster s

theorem resembles_apply (ix : Index) (r : Resource) :
    Resembles (ix.apply r).1 ((ix.apply r).1.apply r).1 := by
  have hrepeats := repeats_apply ix r
  have hafter (ix : Index) : (ix.apply r).1.pods = ix.pods.after (.apply r) :=
    pods_perform ix (.apply r)
  have hcluster (ix : Index) : (ix.apply r).1.cluster = ix.cluster := cluster_perform ix (.apply r)
  refine ⟨hrepeats.snapshot, fun snap hsnap => ?_, fun snap hsnap hneeded => ?_, fun ns => ?_,
    fun s => ?_⟩
  · obtain ⟨s, p, ps, hps, heq⟩ := mem_snapshots.mp hsnap
    refine mem_snapshots.mpr ⟨s, p, ps, ?_, heq⟩
    rcases hrepeats.port? s p with hsame | ⟨hgone, -⟩
    · exact hsame.symm.trans hps
    · cases hgone.symm.trans hps
  · obtain ⟨s, p, ps, hps, rfl⟩ := mem_snapshots.mp hsnap
    refine mem_snapshots.mpr ⟨s, p, ps, ?_, rfl⟩
    rcases hrepeats.port? s p with hsame | ⟨-, hdeclares, hwatched⟩
    · exact hsame.trans hps
    · rcases hneeded with hneeded | hneeded
      · cases hdeclares.symm.trans hneeded
      · cases hwatched.symm.trans hneeded
  · rw [hafter (ix.apply r).1, hafter ix]
    exact (ix.pods.repeats_after r).list ns
  · rw [hcluster (ix.apply r).1, hcluster ix]
    exact effective_again ix r ix.cluster s

/-- After every run, nobody is told anything of a resource that was applied just before, and all
that is seen stays as it was. For profile resources this asks that the retry ratios that are applied
are numbers, or else it leaves out the services that a profile governs whose ratio is none: it
differs from itself. Nobody is told anything of the deletion of a resource that is not applied, and
every service port keeps its endpoints, its existence and its version. -/
theorem redelivered_silent (c : ClusterInfo) (ops : List Operation) :
    let ix := (start c).run ops
    (∀ r : Resource,
      let first := ix.perform (.apply r)
      let again := first.perform (.apply r)
      again.endpointSubs = first.endpointSubs ∧
      ((r.kind = .serviceProfile → ∀ op ∈ ops ++ [.apply r], op.Proper) →
        again.profileSubs = first.profileSubs) ∧
      (∃ events, again.profileSubs = first.profileSubs.publish events ∧
        ∀ s, (r.kind = .serviceProfile → first.profiles.NumberGoverns c s) → events s = []) ∧
      first.Resembles again) ∧
    ∀ kind ns name, isApplied ops ⟨ns, name⟩ kind = false →
      let after := ix.perform (.delete kind ns name)
      after.endpointSubs = ix.endpointSubs ∧ after.profileSubs = ix.profileSubs ∧
        ∀ s p, (after.snapshot s p).endpoints = (ix.snapshot s p).endpoints ∧
          (after.snapshot s p).exists_ = (ix.snapshot s p).exists_ ∧
          (after.snapshot s p).resourceVersion = (ix.snapshot s p).resourceVersion := by
  intro ix
  refine ⟨fun r => ?_, fun kind ns name h => ?_⟩
  · intro first again
    have hprofiles := publish_profiles_again ix r
    rw [cluster_run] at hprofiles
    refine ⟨?_, fun hproper => ?_, hprofiles, resembles_apply ix r⟩
    · change ((ix.apply r).1.apply r).1.endpointSubs = (ix.apply r).1.endpointSubs
      rw [publish_apply, (repeats_apply ix r).changesAt, Subscriptions.publish_nil]
    · obtain ⟨events, hpublish, hsilent⟩ := hprofiles
      have hevents : events = fun _ => [] := by
        refine funext fun s => hsilent s fun hkind => ?_
        have hgoverns := numberGoverns_run c _ (hproper hkind) s
        rwa [run_concat] at hgoverns
      rw [hevents, Subscriptions.publish_nil] at hpublish
      exact hpublish
  · obtain ⟨hends, hprofiles⟩ := subs_delete_of_not_applied c ops h
    refine ⟨hends, hprofiles, fun s p => ?_⟩
    have hconcurs := concurs_of_tracks (tracks_applied c ops s)
      (tracks_delete_of_not_applied c ops h s) p
    exact ⟨endpoints_delete_of_not_applied c ops h s p, hconcurs.exists_,
      hconcurs.resourceVersion⟩

/-- A pod and a profile that are delivered twice are told of once, and a pod that is unknown can be
deleted. -/
theorem redelivered_silent_web :
    let ops := [.apply (.service Sample.service), .apply (.endpoints Sample.endpoints),
      .subscribeEndpoints Sample.web .http, .subscribeProfile Sample.web]
    let own : Operation := .apply (.serviceProfile (Sample.profile "ns" "own"))
    let ix := (start {}).run ops
    let pod := ix.perform (.apply (.pod (Sample.pod "ns")))
    let profile := ix.perform own
    pod.endpointSubs.entries.map (·.log.length) = [2] ∧
    (pod.perform (.apply (.pod (Sample.pod "ns")))).endpointSubs = pod.endpointSubs ∧
    profile.profileSubs.entries.map (·.log.length) = [2] ∧
    (∀ op ∈ ops ++ [own], op.Proper) ∧
    (profile.perform own).profileSubs = profile.profileSubs ∧
    profile.profiles.NumberGoverns {} Sample.web ∧
    (∃ events, (profile.perform own).profileSubs = profile.profileSubs.publish events ∧
      events Sample.web = []) ∧
    isApplied ops ⟨"ns", "web-0"⟩ .pod = false ∧
    (ix.perform (.delete .pod "ns" "web-0")).endpointSubs = ix.endpointSubs := by
  intro ops own ix pod profile
  obtain ⟨hagain, hdelete⟩ := redelivered_silent {} ops
  have hproper : ∀ op ∈ ops ++ [own], op.Proper := by
    intro op hop o heq b hb
    subst heq
    simp only [ops, own, List.cons_append, List.nil_append, List.mem_cons, Operation.apply.injEq,
      Resource.serviceProfile.injEq, reduceCtorEq, List.not_mem_nil, or_false, false_or] at hop
    subst hop
    cases hb
    rfl
  have hnumber : profile.profiles.NumberGoverns {} Sample.web :=
    numberGoverns_run {} (ops ++ [own]) hproper Sample.web
  obtain ⟨-, hequal, ⟨events, hevents, hsilent⟩, -⟩ :=
    hagain (.serviceProfile (Sample.profile "ns" "own"))
  refine ⟨by decide +kernel, (hagain (.pod (Sample.pod "ns"))).1, by decide +kernel, hproper,
    hequal fun _ => hproper, hnumber, ⟨events, hevents, hsilent Sample.web fun _ => hnumber⟩,
    by decide, ?_⟩
  exact (hdelete .pod "ns" "web-0" (by decide)).1

/-- A profile whose retry ratio is not a number differs from itself, so that its listener is told of
it once more when the control plane's profile of the same name is applied a second time. What is
listed may change too: a port loses its only listener, over a full queue, when endpoints are applied
for the first time, and is listed until they are applied again. -/
theorem redelivered_heard :
    (let own : Resource := .serviceProfile { Sample.profile "ns" "own" with
        spec := { retryBudget := some ⟨.nan, 10, "10s"⟩ } }
      let shared : Operation := .apply (.serviceProfile (Sample.profile "linkerd" "shared"))
      let first := (start {}).run [.apply own, .subscribeProfile Sample.web, shared]
      shared.Proper ∧ first.profileSubs.entries.map (·.log.length) = [2] ∧
        (first.perform shared).profileSubs.entries.map (·.log.length) = [3]) ∧
    (let port : Port := ⟨81, by decide⟩
      let endpoints : Operation := .apply (.endpoints
        ⟨{ name := some "web", ns := some "ns" }, [⟨[⟨"10.0.0.1", none⟩], [⟨none, 81⟩]⟩]⟩)
      let first := (start { queueCapacity := 2 }).run
        [.apply (.service Sample.service), .subscribeEndpoints Sample.web port, endpoints]
      first.snapshots.map (·.port) = [.http, port] ∧
        (first.perform endpoints).snapshots.map (·.port) = [.http]) := by
  refine ⟨⟨?_, by decide +kernel, by decide +kernel⟩, by decide +kernel, by decide +kernel⟩
  rintro o heq b hb
  cases heq
  cases hb
  rfl

end Index

end MeshDestination
