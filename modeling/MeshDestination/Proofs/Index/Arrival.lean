import Mathlib.Data.List.Induction
import Mathlib.Data.List.Pairwise
import MeshDestination.Proofs.Index.Owners

/-!
# Initial lists in any order

When nothing is known yet, the resources of a cluster arrive in some order. Whatever the order, the
same is known in the end (`Index.alike_arrived`): the resources have distinct identities, and pods
of a namespace have distinct addresses. The reports of service ports are the same too, but for the
workloads that are recorded with owners: a replica set is not looked at again by the services that
already list its pods. Where something else that concerns the service follows the replica set,
workloads are the same as well (`Index.snapshot_arrived_perm`).
-/

namespace MeshDestination

open Net Cluster Std

/-! ## Identities -/

namespace Cluster.Resource

/-- The kind of a resource. -/
def kind : Resource → Kind
  | .service _ => .service
  | .endpoints _ => .endpoints
  | .pod _ => .pod
  | .replicaSet _ => .replicaSet
  | .serviceProfile _ => .serviceProfile

theorem exists_eq_replicaSet {r : Resource} (h : r.kind = .replicaSet) :
    ∃ o, r = .replicaSet o := by
  cases r with
  | replicaSet o => exact ⟨o, rfl⟩
  | _ => cases h

/-- The kind and the key of a resource, if it has a name. -/
def identity? (r : Resource) : Option (Kind × ObjectKey) := r.key?.map (r.kind, ·)

end Cluster.Resource

namespace Index

variable {rs rs' : List Resource}

/-- Resources with one identity are one. -/
theorem eq_of_identity? (hrs : (rs.filterMap Resource.identity?).Nodup) {r r' : Resource}
    (hr : r ∈ rs) (hr' : r' ∈ rs) (hkind : r.kind = r'.kind) {key : ObjectKey}
    (hkey : r.key? = some key) (hkey' : r'.key? = some key) : r = r' := by
  by_contra hne
  have hsymm : Std.Symm fun r r' : Resource =>
      ∀ i, r.identity? = some i → ∀ j, r'.identity? = some j → i ≠ j :=
    ⟨fun _ _ h i hi j hj => (h j hj i hi).symm⟩
  have hdiffer := (List.pairwise_filterMap.mp hrs).forall hr hr' hne
  refine hdiffer (r.kind, key) ?_ (r'.kind, key) ?_ (by rw [hkind])
  · rw [Resource.identity?, hkey]
    rfl
  · rw [Resource.identity?, hkey']
    rfl

/-- The index after resources have arrived one after the other. -/
def arrived (c : ClusterInfo) (rs : List Resource) : Index := (start c).run (rs.map .apply)

theorem arrived_concat (c : ClusterInfo) (rs : List Resource) (r : Resource) :
    arrived c (rs ++ [r]) = ((arrived c rs).apply r).1 := by
  rw [arrived, List.map_append]
  exact run_concat _ _ _

theorem exists_mem_of_applied {α : Type} {pick : Resource → Option α} {kind : Kind}
    {key : ObjectKey} {a : α} (h : applied pick kind key (rs.map .apply) = some a) :
    ∃ r ∈ rs, r.key? = some key ∧ pick r = some a := by
  obtain ⟨r, hr, hkey, ha⟩ := mem_of_applied h
  obtain ⟨r', hr', hsame⟩ := List.mem_map.mp hr
  cases hsame
  exact ⟨r, hr', hkey, ha⟩

/-- Of resources with distinct identities each is applied in the end. -/
theorem applied_arrived {α : Type} {pick : Resource → Option α} {kind : Kind}
    (hpick : ∀ r a, pick r = some a → r.kind = kind)
    (hrs : (rs.filterMap Resource.identity?).Nodup) {key : ObjectKey} {a : α} :
    applied pick kind key (rs.map .apply) = some a ↔
      ∃ r ∈ rs, r.key? = some key ∧ pick r = some a := by
  refine ⟨exists_mem_of_applied, ?_⟩
  induction rs using List.reverseRecOn with
  | nil =>
    rintro ⟨r, hr, -⟩
    cases hr
  | append_singleton rs last ih =>
    rintro ⟨r, hr, hkey, ha⟩
    rw [List.map_append, List.map_singleton, applied_concat]
    -- The last resource is the one in question, or it says nothing about the key.
    by_cases hlast : last.key? = some key ∧ ∃ b, pick last = some b
    · obtain ⟨hlastkey, b, hb⟩ := hlast
      have hkinds : last.kind = r.kind := (hpick last b hb).trans (hpick r a ha).symm
      obtain rfl := eq_of_identity? hrs (List.mem_append_right rs List.mem_cons_self) hr hkinds
        hlastkey hkey
      rw [record, if_pos hlastkey, ha]
      rfl
    · have hskip (current : Option α) : record pick kind key current (.apply last) = current := by
        rw [record]
        split
        · next hlastkey =>
          rw [Option.eq_none_iff_forall_ne_some.mpr fun b hb => hlast ⟨hlastkey, b, hb⟩]
          rfl
        · rfl
      rw [hskip]
      have hmem : r ∈ rs := by
        rcases List.mem_append.mp hr with hmem | hmem
        · exact hmem
        · cases List.mem_singleton.mp hmem
          exact absurd ⟨hkey, a, ha⟩ hlast
      rw [List.filterMap_append] at hrs
      exact ih (List.Nodup.of_append_left hrs) ⟨r, hmem, hkey, ha⟩

theorem applied_perm {α : Type} {pick : Resource → Option α} {kind : Kind}
    (hpick : ∀ r a, pick r = some a → r.kind = kind)
    (hrs : (rs.filterMap Resource.identity?).Nodup) (hperm : rs.Perm rs') (key : ObjectKey) :
    applied pick kind key (rs.map .apply) = applied pick kind key (rs'.map .apply) := by
  have hrs' := (hperm.filterMap Resource.identity?).nodup_iff.mp hrs
  apply Option.ext
  intro a
  rw [applied_arrived hpick hrs, applied_arrived hpick hrs']
  simp only [hperm.mem_iff]

end Index

/-! ## What is known of pods -/

namespace Pods

variable {p p' : Pods}

/-- The address of every pod leads to the pod. -/
def Complete (p : Pods) : Prop :=
  ∀ ns name pod ip, p.pod? ns name = some pod → pod.ip = some ip → p.nameAt? ns ip = some name

theorem Complete.insertPod (h : p.Complete) {ns name : String} {pod : PodState}
    (hfree : ∀ name' pod' ip, p.pod? ns name' = some pod' → pod'.ip = some ip →
      pod.ip = some ip → name = name') : (p.insertPod ns name pod).Complete := by
  intro ns' name' pod' ip hpod' hip
  rw [pod?_insertPod] at hpod'
  rw [nameAt?_insertPod]
  split at hpod'
  · next hkey =>
    cases hpod'
    obtain ⟨rfl, rfl⟩ := hkey
    exact if_pos ⟨rfl, hip⟩
  · next hkey =>
    -- An address that leads to another pod is neither taken over nor lost.
    have hat := h ns' name' pod' ip hpod' hip
    have hother : ¬(ns = ns' ∧ pod.ip = some ip) := by
      rintro ⟨rfl, hpodip⟩
      exact hkey ⟨rfl, hfree name' pod' ip hpod' hip hpodip⟩
    have hkept : ¬(ns = ns' ∧ (p.get ns).lostIp? name pod = some ip ∧
        p.nameAt? ns' ip = some name) := by
      rintro ⟨hns, -, hname⟩
      rw [hat] at hname
      exact hkey ⟨hns, (Option.some.inj hname).symm⟩
    rw [if_neg hother, if_neg hkept, hat]

theorem Complete.congr (h : p.Complete) (hpod : ∀ ns name, p'.pod? ns name = p.pod? ns name)
    (hname : ∀ ns ip, p'.nameAt? ns ip = p.nameAt? ns ip) : p'.Complete := by
  intro ns name pod ip hp hip
  rw [hpod] at hp
  rw [hname]
  exact h ns name pod ip hp hip

/-- Pods and replica sets decide where addresses lead. -/
theorem alike_of_complete (hs : p.Sound) (hs' : p'.Sound) (hc : p.Complete) (hc' : p'.Complete)
    (hpod : ∀ ns name, p.pod? ns name = p'.pod? ns name)
    (hset : ∀ ns name, p.replicaSet? ns name = p'.replicaSet? ns name) : Alike p p' := by
  intro ns
  refine ⟨hpod ns, fun ip => Option.ext fun name => ?_, hset ns⟩
  change p.nameAt? ns ip = some name ↔ p'.nameAt? ns ip = some name
  constructor
  · intro h
    obtain ⟨pod, hfound, hip⟩ := hs.pod?_of_nameAt? h
    exact hc' ns name pod ip ((hpod ns name).symm.trans hfound) hip
  · intro h
    obtain ⟨pod, hfound, hip⟩ := hs'.pod?_of_nameAt? h
    exact hc ns name pod ip ((hpod ns name).trans hfound) hip

/-- A replica set changes no more than the workloads of the pods that it owns. -/
theorem map_resolve_insertReplicaSet {β : Type} {f : Owner → β} {setNs set : String}
    (owners : List OwnerRef) {ns : String} {ip : Ip} {ref : Option TargetRef}
    (hf : ∀ w pod, p.resolve ns ip ref = some w → p.pod? w.ns w.pod = some pod → w.ns = setNs →
      pod.replicaSet? = some set →
      f ((p.insertReplicaSet setNs set owners).owner w.ns w.pod pod) =
        f (p.owner w.ns w.pod pod)) :
    ((p.insertReplicaSet setNs set owners).resolve ns ip ref).map f =
      (p.resolve ns ip ref).map f := by
  have hpod (ns' name : String) :
      (p.insertReplicaSet setNs set owners).pod? ns' name = p.pod? ns' name :=
    pod?_setReplicaSets p setNs _ ns' name
  refine map_resolve_congr (fun r _ => referenced?_congr fun key _ => hpod _ _)
    (atIp?_congr (nameAt?_setReplicaSets p setNs _ ns ip) fun name _ => hpod ns name) ?_
  intro w pod hw hwpod
  by_cases hset : w.ns = setNs ∧ pod.replicaSet? = some set
  · exact hf w pod hw hwpod hset.1 hset.2
  · refine congrArg f (owner_congr fun name hname => ?_)
    rw [replicaSet?_insertReplicaSet, if_neg]
    rintro ⟨hns, rfl⟩
    exact hset ⟨hns.symm, hname⟩

end Pods

/-! ## Services that are computed anew -/

namespace ServiceState

/-- Every kept port leads where the service resource says now. -/
def Aimed (s : ServiceState) : Prop :=
  ∀ (p : Port) (ps : PortState), s.ports[p]? = some ps → ps.targetPort = s.targetPort p

theorem aimed_refresh (s : ServiceState) (ns : String) (pods : Pods) (watched : Port → Bool) :
    (s.refresh ns pods watched).Aimed := by
  intro p ps h
  obtain ⟨n, rfl⟩ := portState_of_refresh h
  rfl

theorem Aimed.port {s : ServiceState} (h : s.Aimed) (ns : String) (pods : Pods) (p : Port) :
    (s.port ns pods p).targetPort = s.targetPort p := by
  rw [ServiceState.port, TreeMap.getD_eq_getD_getElem?]
  cases hp : s.ports[p]? with
  | none => rfl
  | some ps => exact h p ps hp

/-- Without endpoints there are no owners that could be out of date. -/
theorem Fresh.of_backends_eq_none {β γ : Type} {f : Owner → β} {g : Owner → γ}
    {known known' : ObjectKey → PodState → Prop} {ns : String} {pods pods' : Pods}
    {s : ServiceState} (h : s.Fresh f known ns pods) (hb : s.backends = none) :
    s.Fresh g known' ns pods' := by
  intro p ps hps addr owner howner
  obtain ⟨ports, b, a, -, hsome, -⟩ := h p ps hps addr owner howner
  rw [hb] at hsome
  cases hsome

end ServiceState

namespace Index

variable (ix : Index) (s : ServiceRef)

/-- A service is computed anew with the pods that are known now. -/
def Refreshes (ix' : Index) (s : ServiceRef) : Prop :=
  ∃ (state : ServiceState) (watched : Port → Bool),
    ix'.service s = state.refresh s.ns ix'.pods watched

/-- A resource that arrives leaves a service as it is or has it computed anew. -/
theorem service_apply (r : Resource) :
    (ix.apply r).1.service s = ix.service s ∨ Refreshes (ix.apply r).1 s := by
  have hrefresh (s' : ServiceRef) (state : ServiceState) :
      (ix.refreshService s' state).service s = ix.service s ∨
        Refreshes (ix.refreshService s' state) s := by
    have hservice : (ix.refreshService s' state).service s = if s' = s then _ else ix.service s :=
      service_setService ix s' s _
    by_cases hs : s' = s
    · subst hs
      exact .inr ⟨state, _, hservice.trans (if_pos rfl)⟩
    · exact .inl (hservice.trans (if_neg hs))
  unfold apply
  split
  · cases r with
    | service o => exact hrefresh _ _
    | endpoints o => exact hrefresh _ _
    | pod o =>
      rcases service_reresolve { ix with pods := ix.pods.insertPod _ _ (PodState.ofObject o) } s
        _ _ with ⟨-, -, -, -, hstate⟩ | ⟨-, hstate⟩
      · exact .inr ⟨_, _, hstate⟩
      · exact .inl hstate
    | replicaSet o => exact .inl rfl
    | serviceProfile o =>
      rw [applyNamed]
      split <;> exact .inl rfl
  · cases r <;> exact .inl rfl

theorem aimed_arrived (c : ClusterInfo) (rs : List Resource) (s : ServiceRef) :
    ((arrived c rs).service s).Aimed := by
  refine run_invariant_of (P := fun ix => (ix.service s).Aimed) (Q := fun op => ∃ r, op = .apply r)
    ?_ _ ?_ ?_
  · rintro ix op ⟨r, rfl⟩ h
    change ((ix.apply r).1.service s).Aimed
    rcases service_apply ix s r with hs | ⟨state, watched, hs⟩
    · rwa [hs]
    · rw [hs]
      exact state.aimed_refresh _ _ watched
  · intro op hop
    obtain ⟨r, -, rfl⟩ := List.mem_map.mp hop
    exact ⟨r, rfl⟩
  · rw [service_of_none (show (start c).services[s]? = none from TreeMap.getElem?_emptyc)]
    intro p ps h
    rw [show ({} : ServiceState).ports[p]? = none from TreeMap.getElem?_emptyc] at h
    cases h

/-! ## Coherent lists -/

/-- A list of resources with distinct identities, in which no two pods of a namespace have one
address, and every reference of an address leads to a pod of the service's namespace that has the
address, if it leads to a pod of the list at all. -/
structure Coherent (rs : List Resource) : Prop where
  distinct : (rs.filterMap Resource.identity?).Nodup
  addresses : ∀ {o o' ns name name' ip}, .pod o ∈ rs → .pod o' ∈ rs →
    (Resource.pod o).key? = some ⟨ns, name⟩ → (Resource.pod o').key? = some ⟨ns, name'⟩ →
    (PodState.ofObject o).ip = some ip → (PodState.ofObject o').ip = some ip → name = name'
  references : ∀ {e subset a ref o key ip}, .endpoints e ∈ rs → subset ∈ e.subsets →
    a ∈ subset.addresses → a.targetRef = some ref → .pod o ∈ rs →
    (Resource.pod o).key? = some key → ref.Names e.meta_.namespaceName key →
    Ip.ofText? a.ip = some ip →
    key.ns = e.meta_.namespaceName ∧ (PodState.ofObject o).ip = some ip

variable {rs rs' : List Resource}

theorem Coherent.perm (h : Coherent rs) (hperm : rs.Perm rs') : Coherent rs' where
  distinct := (hperm.filterMap Resource.identity?).nodup_iff.mp h.distinct
  addresses ho ho' := h.addresses (hperm.mem_iff.mpr ho) (hperm.mem_iff.mpr ho')
  references he hsubset ha href ho :=
    h.references (hperm.mem_iff.mpr he) hsubset ha href (hperm.mem_iff.mpr ho)

theorem says_map_apply {key : ObjectKey} {pod : PodState} :
    Says (rs.map .apply) key pod ↔ ∃ o, .pod o ∈ rs ∧ (Resource.pod o).key? = some key ∧
      pod = PodState.ofObject o := by
  simp [Says]

theorem Coherent.steady (h : Coherent rs) {s : ServiceRef} {e : EndpointsObject}
    (he : .endpoints e ∈ rs) (hkey : (Resource.endpoints e).key? = some ⟨s.ns, s.name⟩)
    {target : TargetPort} {addr : SocketAddr} {a : EndpointAddress}
    (hsource : EndpointSubset.source? e.subsets target addr = some a) :
    a.Steady (Says (rs.map .apply)) s.ns e.subsets := by
  obtain ⟨name, -, hname⟩ := Option.map_eq_some_iff.mp hkey
  have hns : e.meta_.namespaceName = s.ns := congrArg ObjectKey.ns hname
  obtain ⟨hip, subset, hsubset, hmem⟩ := EndpointSubset.lists_of_source? hsource
  intro ref key pod href hnames hsays
  obtain ⟨o, ho, hokey, rfl⟩ := says_map_apply.mp hsays
  rw [← hns] at hnames ⊢
  obtain ⟨hkeyns, hoip⟩ := h.references he hsubset hmem href ho hokey hnames hip
  exact ⟨hkeyns, addr.ip, hoip, subset, hsubset, a, hmem, hip⟩

theorem arrived_invariant {P : Index → Prop} (c : ClusterInfo) {rs : List Resource}
    (step : ∀ ix, ∀ r ∈ rs, P ix → P (ix.apply r).1) (h : P (start c)) : P (arrived c rs) := by
  refine run_invariant_of (Q := fun op => ∃ r ∈ rs, op = .apply r) ?_ _ ?_ h
  · rintro ix op ⟨r, hr, rfl⟩ h
    exact step ix r hr h
  · intro op hop
    obtain ⟨r, hr, rfl⟩ := List.mem_map.mp hop
    exact ⟨r, hr, rfl⟩

theorem Owned.complete_apply {β : Type} {f : Owner → β} {s : ServiceRef} {ix : Index}
    (hrs : Coherent rs) (h : ix.Owned f (Says (rs.map .apply)) s) (hc : ix.pods.Complete)
    {r : Resource} (hr : r ∈ rs) : (ix.apply r).1.pods.Complete := by
  have hpods : (ix.apply r).1.pods = ix.pods.after (.apply r) := pods_perform ix (.apply r)
  rw [hpods]
  unfold Pods.after
  split
  · next o hop =>
    cases hop
    split
    · next name hname =>
      refine hc.insertPod fun name' pod' ip hpod' hip' hip => ?_
      obtain ⟨o', ho', hkey', rfl⟩ := says_map_apply.mp (h.pods_known ⟨_, name'⟩ pod' hpod')
      have hkey : (Resource.pod o).key? = some ⟨o.meta_.namespaceName, name⟩ := by
        rw [Resource.key?, show (Resource.pod o).meta_.name = some name from hname]
        rfl
      exact hrs.addresses hr ho' hkey hkey' hip hip'
    · exact hc
  · split
    · exact hc.congr (Pods.pod?_setReplicaSets _ _ _) (Pods.nameAt?_setReplicaSets _ _ _)
    · exact hc.congr (Pods.alike_touch _ _).pod? (Pods.alike_touch _ _).nameAt?
  · next hop => cases hop
  · next hop => cases hop
  · exact hc

/-! ## Replica sets that arrive -/

section ReplicaSets

variable {β : Type} {f : Owner → β} {known : ObjectKey → PodState → Prop} {ix : Index}
  {s : ServiceRef}

/-- The pod that is found for a steady entry is one of the namespace, and has one of the listed
addresses. -/
theorem Owned.found (h : ix.Owned f known s) {subsets : List EndpointSubset} {target : TargetPort}
    {addr : SocketAddr} {a : EndpointAddress}
    (hsource : EndpointSubset.source? subsets target addr = some a)
    (hsteady : a.Steady known s.ns subsets) {w : Owner} {pod : PodState}
    (hw : ix.pods.resolve s.ns addr.ip a.targetRef = some w)
    (hpod : ix.pods.pod? w.ns w.pod = some pod) :
    w.ns = s.ns ∧ ∃ ip, pod.ip = some ip ∧ ∃ subset ∈ subsets, subset.Lists ip := by
  obtain ⟨pod', -, ⟨ref, href, hnames⟩ | ⟨hns, hname⟩⟩ := Pods.resolve_eq_some hw
  · exact hsteady ref _ pod href hnames (h.pods_known ⟨w.ns, w.pod⟩ pod hpod)
  · obtain ⟨found, hfound, hip⟩ := h.sound.pod?_of_nameAt? hname
    rw [hns, hfound] at hpod
    cases hpod
    obtain ⟨haddr, subset, hsubset, hmem⟩ := EndpointSubset.lists_of_source? hsource
    exact ⟨hns, addr.ip, hip, subset, hsubset, a, hmem, haddr⟩

/-- A replica set leaves owners fresh if `f` sees no difference in the workloads of those pods that
it owns and the service lists. -/
theorem Owned.apply_replicaSet (h : ix.Owned f known s) (o : ReplicaSetObject)
    (hf : ∀ {b set name pod ip}, (ix.service s).backends = some b →
      (Resource.replicaSet o).key? = some ⟨s.ns, set⟩ → known ⟨s.ns, name⟩ pod →
      pod.replicaSet? = some set → pod.ip = some ip → (∃ subset ∈ b.subsets, subset.Lists ip) →
      f ((ix.pods.insertReplicaSet s.ns set o.meta_.owners).owner s.ns name pod) =
        f (ix.pods.owner s.ns name pod)) :
    (ix.apply (.replicaSet o)).1.Owned f known s := by
  unfold apply
  split
  · next set hset =>
    refine ⟨h.sound.insertReplicaSet _ _ _, fun key pod hpod => h.pods_known key pod ?_,
      h.fresh.setPods ?_⟩
    · exact (Pods.pod?_setReplicaSets _ _ _ _ _).symm.trans hpod
    · intro b p addr a hb hsource hsteady
      refine Pods.map_resolve_insertReplicaSet _ fun w pod hw hpod hns hpodset => ?_
      obtain ⟨hwns, ip, hip, hlisted⟩ := h.found hsource hsteady hw hpod
      have hkey : (Resource.replicaSet o).key? = some ⟨s.ns, set⟩ := by
        rw [Resource.key?, hset, ← hwns, hns]
        rfl
      have hknown := h.pods_known ⟨w.ns, w.pod⟩ pod hpod
      rw [hwns] at hknown
      rw [← hns, hwns]
      exact hf hb hkey hknown hpodset hip hlisted
  · have halike := Pods.alike_touch ix.pods o.meta_.namespaceName
    refine ⟨halike.sound h.sound, fun key pod hpod => h.pods_known key pod ?_,
      h.fresh.setPods fun b p addr a _ _ _ => ?_⟩
    · exact (halike.pod? _ _).symm.trans hpod
    · exact congrArg _ (halike.resolve _ _ _).symm

end ReplicaSets

/-! ## Replica sets that arrive in time -/

/-- A pod of a service's namespace has one of the addresses that the endpoints resource of the
service lists. -/
def Backs (rs : List Resource) (s : ServiceRef) (o : PodObject) : Prop :=
  ∃ name ip e, (Resource.pod o).key? = some ⟨s.ns, name⟩ ∧ (PodState.ofObject o).ip = some ip ∧
    .endpoints e ∈ rs ∧ (Resource.endpoints e).key? = some ⟨s.ns, s.name⟩ ∧
    ∃ subset ∈ e.subsets, subset.Lists ip

/-- A replica set that gives way to a deployment is the only owner of a pod behind a service. -/
def Decides (rs : List Resource) (s : ServiceRef) (r : Resource) : Prop :=
  ∃ set name o, r = .replicaSet set ∧ r.key? = some ⟨s.ns, name⟩ ∧
    OwnerRef.deployment? set.meta_.owners ≠ none ∧ .pod o ∈ rs ∧ Backs rs s o ∧
    (PodState.ofObject o).replicaSet? = some name

/-- A resource is one of a service itself, or a pod behind it. -/
def Concerns (rs : List Resource) (s : ServiceRef) : Resource → Prop
  | .service o => (Resource.service o).key? = some ⟨s.ns, s.name⟩
  | .endpoints e => (Resource.endpoints e).key? = some ⟨s.ns, s.name⟩
  | .pod o => Backs rs s o
  | _ => False

/-- After every replica set that decides the workload of a pod behind a service, something arrives
that concerns the service. -/
def InTime (rs arriving : List Resource) (s : ServiceRef) : Prop :=
  ∀ before r after, arriving = before ++ r :: after → Decides rs s r → ∃ x ∈ after, Concerns rs s x

variable {s : ServiceRef} {c : ClusterInfo}

theorem InTime.of_concat {arriving : List Resource} {r : Resource}
    (h : InTime rs (arriving ++ [r]) s) (hr : ¬Concerns rs s r) : InTime rs arriving s := by
  rintro before r' after rfl hdecides
  obtain ⟨x, hx, hconcerns⟩ := h before r' (after ++ [r]) (by simp) hdecides
  rcases List.mem_append.mp hx with hx | hx
  · exact ⟨x, hx, hconcerns⟩
  · cases List.mem_singleton.mp hx
    exact absurd hconcerns hr

theorem InTime.not_decides {arriving : List Resource} {r : Resource}
    (h : InTime rs (arriving ++ [r]) s) : ¬Decides rs s r := by
  intro hdecides
  obtain ⟨x, hx, -⟩ := h arriving r [] rfl hdecides
  cases hx

/-- Replica sets arrive in time when the last to arrive concerns the service. -/
theorem inTime_concat {arriving : List Resource} {x : Resource} (hx : Concerns rs s x) :
    InTime rs (arriving ++ [x]) s := by
  intro before r after h hdecides
  cases after using List.reverseRecOn with
  | nil =>
    cases (List.append_inj' h rfl).2
    obtain ⟨set, name, o, rfl, -⟩ := hdecides
    exact hx.elim
  | append_singleton after last =>
    have h : arriving ++ [x] = (before ++ r :: after) ++ [last] := by simpa using h
    cases (List.append_inj' h rfl).2
    exact ⟨x, List.mem_append_right _ List.mem_cons_self, hx⟩

theorem backends_arrived {arriving : List Resource} {b : Backends}
    (h : ((arrived c arriving).service s).backends = some b) :
    ∃ e, .endpoints e ∈ arriving ∧ (Resource.endpoints e).key? = some ⟨s.ns, s.name⟩ ∧
      b = Backends.ofObject e := by
  obtain ⟨e, he, rfl⟩ :=
    Option.map_eq_some_iff.mp ((tracks_applied c (arriving.map .apply) s).backends.symm.trans h)
  obtain ⟨r, hr, hkey, hpick⟩ := exists_mem_of_applied he
  cases r <;> cases hpick
  exact ⟨_, hr, hkey, rfl⟩

/-- A replica set that gives way to no deployment did not do so before either. -/
theorem deployment?_arrived (hrs : Coherent rs) {arriving : List Resource}
    (hsub : ∀ r ∈ arriving, r ∈ rs) {o : ReplicaSetObject} (ho : .replicaSet o ∈ rs)
    {key : ObjectKey} (hkey : (Resource.replicaSet o).key? = some key)
    (hnone : OwnerRef.deployment? o.meta_.owners = none) :
    ((arrived c arriving).pods.replicaSet? key.ns key.name).bind OwnerRef.deployment? = none := by
  rw [arrived, replicaSet?_run]
  cases hset : appliedReplicaSet (arriving.map .apply) key with
  | none => rfl
  | some o' =>
    obtain ⟨r, hr, hkey', hpick⟩ := exists_mem_of_applied hset
    cases r <;> cases hpick
    cases eq_of_identity? hrs.distinct ho (hsub _ hr) rfl hkey hkey'
    exact hnone

/-- What arrives keeps owners fresh, except that a replica set may change workloads. -/
theorem Owned.arrive {β : Type} {f : Owner → β} {ix : Index}
    (h : ix.Owned f (Says (rs.map .apply)) s) {r : Resource} (hr : r ∈ rs)
    (hkind : r.kind ≠ .replicaSet) : (ix.apply r).1.Owned f (Says (rs.map .apply)) s := by
  have hop : ¬(Operation.apply r).OnReplicaSets := by
    intro hop
    cases r <;> first | exact hkind rfl | exact hop
  refine h.perform hop fun o key ho hkey => says_map_apply.mpr ⟨o, ?_, hkey, rfl⟩
  cases ho
  exact hr

/-- Which pod an address has never depends on replica sets. -/
theorem owned_arrived (rs : List Resource) {arriving : List Resource}
    (hsub : ∀ r ∈ arriving, r ∈ rs) :
    (arrived c arriving).Owned (fun w => (w.ns, w.pod)) (Says (rs.map .apply)) s := by
  refine arrived_invariant c (fun ix r hr h => ?_) (owned_start c s)
  by_cases hkind : r.kind = .replicaSet
  · obtain ⟨o, rfl⟩ := Resource.exists_eq_replicaSet hkind
    exact h.apply_replicaSet o fun _ _ _ _ _ _ => rfl
  · exact h.arrive (hsub r hr) hkind

/-- What concerns a service has it computed anew, unless it lists no addresses yet. -/
theorem refreshes_of_concerns (hrs : Coherent rs) {arriving : List Resource}
    (hsub : ∀ r ∈ arriving, r ∈ rs) {r : Resource} (hconcerns : Concerns rs s r) :
    Refreshes ((arrived c arriving).apply r).1 s ∨
      (((arrived c arriving).apply r).1.service s).backends = none := by
  have hrefresh (ix : Index) (state : ServiceState) : Refreshes (ix.refreshService s state) s :=
    ⟨state, ix.watched s, (service_setService ix s s _).trans (if_pos rfl)⟩
  cases r with
  | service o =>
    obtain ⟨name, hname, hkey⟩ := Option.map_eq_some_iff.mp hconcerns
    cases s
    cases hkey
    rw [apply, hname]
    exact .inl (hrefresh _ _)
  | endpoints e =>
    obtain ⟨name, hname, hkey⟩ := Option.map_eq_some_iff.mp hconcerns
    cases s
    cases hkey
    rw [apply, hname]
    exact .inl (hrefresh _ _)
  | pod o =>
    obtain ⟨name, ip, e, hkey, hip, he, hekey, subset, hsubset, hlists⟩ := hconcerns
    obtain ⟨name', hname, hkey⟩ := Option.map_eq_some_iff.mp hkey
    have hns : o.meta_.namespaceName = s.ns := congrArg ObjectKey.ns hkey
    rw [apply, hname]
    rcases service_reresolve { arrived c arriving with
        pods := (arrived c arriving).pods.insertPod o.meta_.namespaceName name'
          (PodState.ofObject o) } s o.meta_.namespaceName _
      with ⟨-, -, -, -, hstate⟩ | ⟨hunlisted, hstate⟩
    · exact .inl ⟨_, _, hstate⟩
    · refine .inr ((congrArg ServiceState.backends hstate).trans ?_)
      rw [Option.eq_none_iff_forall_ne_some]
      intro b hb
      -- The endpoints resource that has arrived is the one that lists the pod.
      obtain ⟨e', he', hekey', rfl⟩ := backends_arrived hb
      cases eq_of_identity? hrs.distinct he (hsub _ he') rfl hekey hekey'
      have hmem : ip ∈ (arrived c arriving).pods.affectedIps o.meta_.namespaceName name'
          (PodState.ofObject o) := by
        simp [Pods.affectedIps, hip]
      have hmentions : (Backends.ofObject e).mentions _ = true :=
        Backends.mentions_of_lists hsubset hlists hmem
      exact Bool.false_ne_true ((hunlisted _ hb hns.symm).symm.trans hmentions)
  | replicaSet o => exact hconcerns.elim
  | serviceProfile o => exact hconcerns.elim

/-- While replica sets arrive in time, owners are fresh with their workloads. By induction on the
arrivals: what concerns the service makes owners fresh whatever came before, and anything else keeps
them so. -/
theorem owned_of_inTime (hrs : Coherent rs) {arriving : List Resource}
    (hsub : ∀ r ∈ arriving, r ∈ rs) (htime : InTime rs arriving s) :
    (arrived c arriving).Owned id (Says (rs.map .apply)) s := by
  induction arriving using List.reverseRecOn with
  | nil => exact owned_start c s
  | append_singleton arriving r ih =>
    have hloose := owned_arrived (c := c) (s := s) rs hsub
    have hsub' (r' : Resource) (hr' : r' ∈ arriving) : r' ∈ rs :=
      hsub r' (List.mem_append_left _ hr')
    have hr : r ∈ rs := hsub r (List.mem_append_right _ List.mem_cons_self)
    rw [arrived_concat] at hloose ⊢
    by_cases hconcerns : Concerns rs s r
    · refine ⟨hloose.sound, hloose.pods_known, ?_⟩
      rcases refreshes_of_concerns (c := c) hrs hsub' hconcerns with ⟨state, watched, hs⟩ | hnone
      · rw [hs]
        exact ServiceState.fresh_refresh state watched
      · exact hloose.fresh.of_backends_eq_none hnone
    · have h := ih hsub' (htime.of_concat hconcerns)
      by_cases hkind : r.kind = .replicaSet
      · obtain ⟨o, rfl⟩ := Resource.exists_eq_replicaSet hkind
        refine h.apply_replicaSet o ?_
        intro b set name pod ip hb hkey hsays hset hip hlists
        -- Without a deployment the replica set stays the workload, as it was while unknown.
        by_cases hnone : OwnerRef.deployment? o.meta_.owners = none
        · refine Pods.owner_congr fun set' hset' => ?_
          cases hset.symm.trans hset'
          rw [Pods.replicaSet?_insertReplicaSet, if_pos ⟨rfl, rfl⟩, Option.bind_some, hnone]
          exact (deployment?_arrived hrs hsub' hr hkey hnone).symm
        · obtain ⟨o', ho', hkey', rfl⟩ := says_map_apply.mp hsays
          obtain ⟨e, he, hekey, rfl⟩ := backends_arrived hb
          have hbacks : Backs rs s o' := ⟨name, ip, e, hkey', hip, hsub' _ he, hekey, hlists⟩
          exact absurd ⟨o, set, o', rfl, hkey, hnone, ho', hbacks, hset⟩ htime.not_decides
      · exact h.arrive hr hkind

/-! ## The same in any order -/

theorem complete_arrived (c : ClusterInfo) (hrs : Coherent rs) {arriving : List Resource}
    (hsub : ∀ r ∈ arriving, r ∈ rs) : (arrived c arriving).pods.Complete := by
  induction arriving using List.reverseRecOn with
  | nil =>
    intro ns name pod ip hpod
    rw [show (arrived c []).pods.pod? ns name = none from TreeMap.getElem?_emptyc] at hpod
    cases hpod
  | append_singleton arriving r ih =>
    have hsub' (r' : Resource) (hr' : r' ∈ arriving) : r' ∈ rs :=
      hsub r' (List.mem_append_left _ hr')
    have howned := owned_arrived (c := c) (s := ⟨"", ""⟩) rs hsub'
    rw [arrived_concat]
    exact howned.complete_apply hrs (ih hsub')
      (hsub r (List.mem_append_right _ List.mem_cons_self))

/-- The same is known of pods whatever the order. -/
theorem alike_arrived (c : ClusterInfo) (hrs : Coherent rs) (hperm : rs.Perm rs') :
    (arrived c rs).pods.Alike (arrived c rs').pods := by
  have hrs' := hrs.perm hperm
  refine Pods.alike_of_complete (sound_run c _) (sound_run c _)
    (complete_arrived c hrs fun _ => id) (complete_arrived c hrs' fun _ => id) ?_ ?_
  · intro ns name
    have hpick (r : Resource) (o : PodObject) (h : Resource.pod? r = some o) : r.kind = .pod := by
      cases r <;> first | rfl | cases h
    rw [arrived, arrived, pod?_run c _ ⟨ns, name⟩, pod?_run c _ ⟨ns, name⟩, appliedPod,
      applied_perm hpick hrs.distinct hperm]
    rfl
  · intro ns name
    have hpick (r : Resource) (o : ReplicaSetObject) (h : Resource.replicaSet? r = some o) :
        r.kind = .replicaSet := by
      cases r <;> first | rfl | cases h
    rw [arrived, arrived, replicaSet?_run c _ ⟨ns, name⟩, replicaSet?_run c _ ⟨ns, name⟩,
      appliedReplicaSet, applied_perm hpick hrs.distinct hperm]
    rfl

/-- A service is what the same resources say whatever the order. -/
theorem tracks_arrived_perm (c : ClusterInfo) (hrs : Coherent rs) (hperm : rs.Perm rs')
    (s : ServiceRef) : ∃ svc eps, ((arrived c rs).service s).Tracks svc eps ∧
      ((arrived c rs').service s).Tracks svc eps ∧ ∀ e, eps = some e →
        .endpoints e ∈ rs ∧ (Resource.endpoints e).key? = some ⟨s.ns, s.name⟩ := by
  have hservice (r : Resource) (o : ServiceObject) (h : Resource.service? r = some o) :
      r.kind = .service := by
    cases r <;> first | rfl | cases h
  have hendpoints (r : Resource) (o : EndpointsObject) (h : Resource.endpoints? r = some o) :
      r.kind = .endpoints := by
    cases r <;> first | rfl | cases h
  have htracks := tracks_applied c (rs'.map .apply) s
  rw [appliedService, appliedEndpoints, ← applied_perm hservice hrs.distinct hperm,
    ← applied_perm hendpoints hrs.distinct hperm] at htracks
  refine ⟨_, _, tracks_applied c (rs.map .apply) s, htracks, ?_⟩
  intro e he
  obtain ⟨r, hr, hkey, hpick⟩ := (applied_arrived hendpoints hrs.distinct).mp he
  cases r <;> cases hpick
  exact ⟨hr, hkey⟩

end Index

/-! ## Reports -/

theorem AddressMap.map_endpoints_congr {β : Type} {f : Owner → β} {m m' : AddressMap}
    (h : ∀ addr : SocketAddr, m[addr]?.map (Option.map f) = m'[addr]?.map (Option.map f)) :
    m.endpoints.map (fun e => (e.addr, e.owner.map f)) =
      m'.endpoints.map fun e => (e.addr, e.owner.map f) := by
  have hsame : (m.map fun _ => Option.map f).toList = (m'.map fun _ => Option.map f).toList := by
    apply TreeMap.Equiv.toList_eq
    apply TreeMap.Equiv.of_forall_constGet?_eq
    intro addr
    change (m.map fun _ => Option.map f)[addr]? = (m'.map fun _ => Option.map f)[addr]?
    rw [TreeMap.getElem?_map, TreeMap.getElem?_map, h]
  rw [TreeMap.toList_map, TreeMap.toList_map] at hsame
  rw [endpoints, endpoints, List.map_map, List.map_map]
  exact hsame

/-- Two reports that differ in nothing but what `f` does not see of owners. -/
structure PortSnapshot.Same {β : Type} (f : Owner → β) (snap snap' : PortSnapshot) : Prop where
  service : snap.service = snap'.service
  port : snap.port = snap'.port
  targetPort : snap.targetPort = snap'.targetPort
  resourceVersion : snap.resourceVersion = snap'.resourceVersion
  exists_ : snap.exists_ = snap'.exists_
  endpoints : snap.endpoints.map (fun e => (e.addr, e.owner.map f)) =
    snap'.endpoints.map fun e => (e.addr, e.owner.map f)

theorem PortSnapshot.Same.eq {snap snap' : PortSnapshot} (h : Same id snap snap') :
    snap = snap' := by
  obtain ⟨hs, hp, ht, hv, he, hends⟩ := h
  have hinj : Function.Injective fun e : Endpoint => (e.addr, e.owner.map id) := by
    rintro ⟨addr, owner⟩ ⟨addr', owner'⟩ heq
    simpa using heq
  have hends := List.map_injective_iff.mpr hinj hends
  cases snap
  cases snap'
  simp_all

/-- Ports of services with the same resources have the same owners, as far as these are fresh. -/
theorem ServiceState.Tracks.map_getElem?_addrs {β : Type} {f : Owner → β}
    {known known' : ObjectKey → PodState → Prop} {ns : String} {pods pods' : Pods}
    {s s' : ServiceState} {svc : Option ServiceObject} {eps : Option EndpointsObject} {p : Port}
    {ps ps' : PortState} (h : s.Tracks svc eps) (h' : s'.Tracks svc eps) (hps : ps.Agrees s p)
    (hps' : ps'.Agrees s' p) (hfresh : ps.Fresh f known ns pods s p)
    (hfresh' : ps'.Fresh f known' ns pods' s' p) (halike : pods.Alike pods')
    (hsteady : ∀ {e target addr a}, eps = some e →
      EndpointSubset.source? e.subsets target addr = some a →
      a.Steady known ns e.subsets ∧ a.Steady known' ns e.subsets) (addr : SocketAddr) :
    ps.addrs[addr]?.map (Option.map f) = ps'.addrs[addr]?.map (Option.map f) := by
  have hmem := h.mem_addrs_iff h' hps hps' addr
  rw [TreeMap.mem_iff_isSome_getElem?, TreeMap.mem_iff_isSome_getElem?] at hmem
  cases howner : ps.addrs[addr]? with
  | none =>
    cases howner' : ps'.addrs[addr]? with
    | none => rfl
    | some owner' => simp [howner, howner'] at hmem
  | some owner =>
    cases howner' : ps'.addrs[addr]? with
    | none => simp [howner, howner'] at hmem
    | some owner' =>
      obtain ⟨ports, b, a, hd, hb, hsource, hnow⟩ := hfresh addr owner howner
      obtain ⟨ports', b', a', hd', hb', hsource', hnow'⟩ := hfresh' addr owner' howner'
      obtain ⟨e, he, rfl⟩ := Option.map_eq_some_iff.mp (h.backends.symm.trans hb)
      cases hb'.symm.trans (h'.backends.trans (h.backends.symm.trans hb))
      have htarget : s'.targetPort p = s.targetPort p := by
        rw [ServiceState.targetPort, ServiceState.targetPort, h.declared, h'.declared]
      rw [htarget] at hsource'
      cases hsource.symm.trans hsource'
      obtain ⟨hs, hs'⟩ := hsteady he hsource
      refine congrArg some ?_
      rw [hnow hs, hnow' hs', halike.resolve]

namespace Index

variable {β : Type} {f : Owner → β} {c : ClusterInfo} {rs rs' : List Resource} {s : ServiceRef}

/-- Reports are the same as far as recorded owners are fresh in both orders. -/
theorem same_of_owned (hrs : Coherent rs) (hperm : rs.Perm rs')
    (howned : (arrived c rs).Owned f (Says (rs.map .apply)) s)
    (howned' : (arrived c rs').Owned f (Says (rs'.map .apply)) s) (p : Port) :
    ((arrived c rs).snapshot s p).Same f ((arrived c rs').snapshot s p) := by
  obtain ⟨svc, eps, htracks, htracks', heps⟩ := tracks_arrived_perm c hrs hperm s
  have hd : ((arrived c rs').service s).declared = ((arrived c rs).service s).declared :=
    htracks'.declared.trans htracks.declared.symm
  have hb : ((arrived c rs').service s).backends = ((arrived c rs).service s).backends :=
    htracks'.backends.trans htracks.backends.symm
  have htarget : ((arrived c rs').service s).targetPort p =
      ((arrived c rs).service s).targetPort p := by
    rw [ServiceState.targetPort, ServiceState.targetPort, hd]
  have hport := htracks.port s.ns (arrived c rs).pods p
  have hport' := htracks'.port s.ns (arrived c rs').pods p
  refine ⟨rfl, rfl, ?_, ?_, ?_, AddressMap.map_endpoints_congr fun addr => ?_⟩
  · exact ((aimed_arrived c rs s).port s.ns _ p).trans
      (htarget.symm.trans ((aimed_arrived c rs' s).port s.ns _ p).symm)
  · refine hport.resourceVersion.trans (Eq.trans ?_ hport'.resourceVersion.symm)
    rw [ServiceState.resourceVersion, ServiceState.resourceVersion, hd, hb]
  · refine hport.exists_.trans (Eq.trans ?_ hport'.exists_.symm)
    rw [ServiceState.exists_, ServiceState.exists_, hd]
  · refine htracks.map_getElem?_addrs htracks' hport hport' (howned.fresh.port p)
      (howned'.fresh.port p) (alike_arrived c hrs hperm) ?_ addr
    intro e target addr a he hsource
    obtain ⟨hmem, hkey⟩ := heps e he
    exact ⟨hrs.steady hmem hkey hsource,
      (hrs.perm hperm).steady (hperm.mem_iff.mp hmem) hkey hsource⟩

/-- The resources of a coherent list arrive in two orders. Every report is the same in the end but
for the workloads of owners, and if all replica sets that decide the workload of a pod behind the
service arrive in time in both orders, the report is the same altogether. -/
theorem snapshot_arrived_perm (c : ClusterInfo) (hrs : Coherent rs) (hperm : rs.Perm rs')
    (s : ServiceRef) (p : Port) :
    ((arrived c rs).snapshot s p).Same (fun w => (w.ns, w.pod)) ((arrived c rs').snapshot s p) ∧
    (InTime rs rs s → InTime rs' rs' s →
      (arrived c rs).snapshot s p = (arrived c rs').snapshot s p) := by
  refine ⟨?_, fun htime htime' => ?_⟩
  · exact same_of_owned hrs hperm (owned_arrived rs fun _ => id) (owned_arrived rs' fun _ => id) p
  · have howned := owned_of_inTime (c := c) hrs (fun _ => id) htime
    have howned' := owned_of_inTime (c := c) (hrs.perm hperm) (fun _ => id) htime'
    exact (same_of_owned hrs hperm howned howned' p).eq

end Index

namespace Sample

/-- The pod of the endpoints resource, with a replica set as its only owner. -/
def ownedPod : PodObject :=
  { pod "ns" with meta_ := { (pod "ns").meta_ with owners := [⟨"ReplicaSet", "web-1"⟩] } }

/-- The replica set, which belongs to a deployment. -/
def replicaSet : ReplicaSetObject :=
  ⟨{ name := some "web-1", ns := some "ns", owners := [⟨"Deployment", "web"⟩] }⟩

/-- The pod with its replica set, and the service whose endpoints refer to it. -/
def resources : List Resource :=
  [.replicaSet replicaSet, .pod ownedPod, .service service, .endpoints (referring "ns")]

theorem coherent_resources : Index.Coherent resources where
  distinct := by decide +kernel
  addresses {o o' ns name name' ip} ho ho' hkey hkey' _ _ := by
    have ho : o = ownedPod := by simpa [resources] using ho
    have ho' : o' = ownedPod := by simpa [resources] using ho'
    subst ho ho'
    cases hkey.symm.trans hkey'
    rfl
  references {e subset a ref o key ip} he hsubset ha href ho hkey hnames hip := by
    have he : e = referring "ns" := by simpa [resources] using he
    have ho : o = ownedPod := by simpa [resources] using ho
    subst he ho
    cases hkey
    cases List.mem_singleton.mp hsubset
    cases List.mem_singleton.mp ha
    exact ⟨rfl, hip⟩

end Sample

namespace Index

/-- The replica set arrives first, or right before the pod that it owns. -/
theorem snapshot_arrived_perm_web :
    let rs' := [.service Sample.service, .endpoints (Sample.referring "ns"),
      .replicaSet Sample.replicaSet, .pod Sample.ownedPod]
    Sample.resources.Perm rs' ∧
      (arrived {} Sample.resources).snapshot Sample.web .http =
        (arrived {} rs').snapshot Sample.web .http := by
  intro rs'
  have hperm : Sample.resources.Perm rs' :=
    show ([_, _] ++ [_, _]).Perm ([_, _] ++ [_, _]) from List.perm_append_comm
  have hendpoints : Concerns Sample.resources Sample.web (.endpoints (Sample.referring "ns")) := rfl
  have hpod : Concerns rs' Sample.web (.pod Sample.ownedPod) :=
    ⟨"web-0", Sample.backend.ip, Sample.referring "ns", rfl, by decide +kernel, by simp [rs'], rfl,
      _, List.mem_singleton_self _, _, List.mem_singleton_self _, by decide +kernel⟩
  refine ⟨hperm, (snapshot_arrived_perm {} Sample.coherent_resources hperm _ _).2 ?_ ?_⟩
  · exact show InTime _ ([_, _, _] ++ [_]) _ from inTime_concat hendpoints
  · exact show InTime _ ([_, _, _] ++ [_]) _ from inTime_concat hpod

/-- A replica set that arrives after everything else is not seen: the pod keeps the replica set as
its workload, which gives way to the deployment if the replica set arrives first. -/
theorem snapshot_late_replicaSet :
    let rs' := [.pod Sample.ownedPod, .service Sample.service, .endpoints (Sample.referring "ns"),
      .replicaSet Sample.replicaSet]
    Coherent Sample.resources ∧ Sample.resources.Perm rs' ∧
      ((arrived {} Sample.resources).snapshot Sample.web .http).endpoints =
        [⟨Sample.backend, some ⟨"ns", "web-0", "deployment", "web"⟩⟩] ∧
      ((arrived {} rs').snapshot Sample.web .http).endpoints =
        [⟨Sample.backend, some ⟨"ns", "web-0", "replicaset", "web-1"⟩⟩] := by
  intro rs'
  refine ⟨Sample.coherent_resources, ?_, ?_, ?_⟩
  · exact (List.perm_append_singleton _ _).symm
  · decide +kernel
  · decide +kernel

end Index

end MeshDestination
