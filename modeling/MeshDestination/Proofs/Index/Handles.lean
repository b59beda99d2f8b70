import MeshDestination.Proofs.Hosting
import MeshDestination.Proofs.Index.Convergence
import MeshDestination.Proofs.Index.Retention
import MeshDestination.Proofs.Index.Services

/-!
# Handles of an index

The states of ports and profiles keep the number of the next subscription as long as they are kept,
and new ones number from zero. Hence a run of registries hosts the ports of an index, and another
one its profiles, and they go on as the index does (`Index.Hosted.run`): what holds of handles in
all runs of registries holds of the subscriptions of an index (`Index.handles_reach_their_own`).
-/

namespace MeshDestination

open Net Cluster Std

/-! ## Numbers of ports -/

/-- The ports of `s'` have the numbers that they had in `s`, or are new and number from zero. -/
def ServiceState.Numbers (s s' : ServiceState) : Prop :=
  ∀ (p : Port) (ps' : PortState), s'.ports[p]? = some ps' →
    ps'.nextNumber = 0 ∨ ∃ ps, s.ports[p]? = some ps ∧ ps.nextNumber = ps'.nextNumber

namespace ServiceState

variable {s s' : ServiceState}

theorem numbers_of_ports (h : s'.ports = s.ports) : Numbers s s' :=
  fun _ ps' hps' => .inr ⟨ps', h ▸ hps', rfl⟩

theorem numbers_refresh (hports : s'.ports = s.ports) (ns : String) (pods : Pods)
    (watched : Port → Bool) : Numbers s (s'.refresh ns pods watched) := by
  intro p ps' hps'
  rw [getElem?_ports_refresh, hports] at hps'
  split at hps'
  · next ps hps =>
    split at hps'
    · cases hps'
      exact .inr ⟨ps, hps, rfl⟩
    · cases hps'
  · split at hps'
    · cases hps'
      exact .inl rfl
    · cases hps'

end ServiceState

namespace Index

open ServiceState

variable {ix ix' : Index}

theorem numbers_of_service (h : ∀ s, Numbers (ix.service s) (ix'.service s)) :
    Topics.Numbers ix.portTopics ix'.portTopics := by
  rintro ⟨s, p⟩ n hn
  obtain ⟨ps', hps', rfl⟩ := Topics.number?_eq_some.mp hn
  change ix'.port? (s, p) = some ps' at hps'
  rw [← getElem?_ports_service ix' (s, p)] at hps'
  refine (h s p ps' hps').imp_right ?_
  rintro ⟨ps, hps, hsame⟩
  rw [getElem?_ports_service ix (s, p)] at hps
  exact Topics.number?_eq_some.mpr ⟨ps, hps, hsame⟩

theorem numbers_of_services (h : ix'.services = ix.services) :
    Topics.Numbers ix.portTopics ix'.portTopics :=
  numbers_of_service fun s => numbers_of_ports (by rw [service, service, h])

theorem numbers_collect (ix : Index) : Topics.Numbers ix.portTopics ix.collect.portTopics := by
  intro topic n hn
  obtain ⟨ps, hps, rfl⟩ := Topics.number?_eq_some.mp hn
  exact .inr (Topics.number?_eq_some.mpr ⟨ps, port?_of_collect hps, rfl⟩)

theorem numbers_refreshService (ix : Index) {s : ServiceRef} {state : ServiceState}
    (hports : state.ports = (ix.service s).ports) :
    Topics.Numbers ix.portTopics (ix.refreshService s state).portTopics :=
  numbers_of_service fun s' => by
    rw [service_refreshService]
    split
    · next hs => exact hs ▸ numbers_refresh hports _ _ _
    · exact numbers_of_ports rfl

theorem numbers_reresolve (ix : Index) (pods : Pods) (ns : String) (ips : List Ip) :
    Topics.Numbers ix.portTopics (({ ix with pods } : Index).reresolve ns ips).portTopics :=
  numbers_of_service fun s => by
    rcases service_reresolve { ix with pods } s ns ips with ⟨-, -, -, -, hs⟩ | ⟨-, hs⟩
    · rw [hs]
      exact numbers_refresh rfl _ _ _
    · exact numbers_of_ports (congrArg ServiceState.ports hs)

theorem numbers_deleteService (ix : Index) (s : ServiceRef) :
    Topics.Numbers ix.portTopics (ix.deleteService s).portTopics := by
  intro topic n hn
  obtain ⟨ps, hps, rfl⟩ := Topics.number?_eq_some.mp hn
  obtain ⟨old, hold, rfl, -⟩ := port?_deleteService hps
  refine .inr (Topics.number?_eq_some.mpr ⟨old, hold, ?_⟩)
  split <;> rfl

theorem numbers_deleteEndpoints (ix : Index) (s : ServiceRef) :
    Topics.Numbers ix.portTopics (ix.deleteEndpoints s).portTopics := by
  unfold deleteEndpoints
  split
  · next state hstate =>
    refine (numbers_refreshService ix ?_).trans (numbers_collect _)
    rw [service_of_getElem? hstate]
  · exact numbers_collect ix

theorem numbers_apply (ix : Index) (r : Resource) :
    Topics.Numbers ix.portTopics (ix.apply r).1.portTopics := by
  unfold apply
  split
  · cases r with
    | service o => exact numbers_refreshService ix rfl
    | endpoints o => exact numbers_refreshService ix rfl
    | pod o => exact numbers_reresolve ix _ _ _
    | replicaSet o => exact numbers_of_services rfl
    | serviceProfile o =>
      rw [applyNamed]
      split <;> exact numbers_of_services rfl
  · cases r <;> exact numbers_of_services rfl

theorem numbers_delete (ix : Index) (kind : Kind) (ns name : String) :
    Topics.Numbers ix.portTopics (ix.delete kind ns name).portTopics := by
  cases kind with
  | service => exact numbers_deleteService ix _
  | endpoints => exact numbers_deleteEndpoints ix _
  | pod => exact numbers_reresolve ix _ _ _
  | replicaSet => exact numbers_of_services rfl
  | serviceProfile =>
    change Topics.Numbers _ (ix.deleteProfile _).portTopics
    unfold deleteProfile
    split <;> exact numbers_of_services rfl

/-! ## Hosts of ports -/

theorem numbers_opening (ix : Index) (s : ServiceRef) (p : Port) :
    (ix.opening s p).nextNumber = 0 ∨
      ix.portTopics.number? (s, p) = some (ix.opening s p).nextNumber := by
  cases hkept : ix.collect.port? (s, p) with
  | none =>
    refine .inl ?_
    rw [opening, ServiceState.port, TreeMap.getD_eq_getD_getElem?,
      getElem?_ports_service ix.collect (s, p), hkept]
    rfl
  | some ps =>
    have hopening : ix.opening s p = ps := current_of_port? hkept
    rw [hopening]
    exact numbers_collect ix (s, p) _ (Topics.number?_eq_some.mpr ⟨ps, hkept, rfl⟩)

variable {ports : Registries EndpointsEvent} {profiles : Registries (Option Profile)}

theorem hosted_subscribeEndpoints {of : Nat → PortRef} (hheld : ix.portTopics.Held) (s : ServiceRef)
    (p : Port)
    (h : ports.Hosts of ix.cluster.queueCapacity ix.endpointSubs ix.portTopics.number?) :
    ports.Hosted ix.cluster.queueCapacity (ix.subscribeEndpoints s p).1.endpointSubs
      (ix.subscribeEndpoints s p).1.portTopics.number? := by
  refine (subscribes_subscribeEndpoints ix s p).hosted hheld (numbers_opening ix s p) ?_ h
  intro other n hother hn
  refine numbers_collect ix other n ?_
  obtain ⟨ps, hps, rfl⟩ := Topics.number?_eq_some.mp hn
  change (ix.subscribeEndpoints s p).1.port? other = some ps at hps
  rw [port?_subscribeEndpoints, if_neg (Ne.symm hother)] at hps
  exact Topics.number?_eq_some.mpr ⟨ps, hps, rfl⟩

theorem hosted_ports_perform {of : Nat → PortRef} (hheld : ix.portTopics.Held) (op : Operation)
    (h : ports.Hosts of ix.cluster.queueCapacity ix.endpointSubs ix.portTopics.number?) :
    ports.Hosted ix.cluster.queueCapacity (ix.perform op).endpointSubs
      (ix.perform op).portTopics.number? := by
  cases op with
  | apply r =>
    obtain ⟨events, hm⟩ := moves_apply ix r
    exact hm.hosted hheld (numbers_apply ix r) h
  | delete kind ns name =>
    obtain ⟨events, hm⟩ := moves_delete ix kind ns name
    exact hm.hosted hheld (numbers_delete ix kind ns name) h
  | subscribeEndpoints s p => exact hosted_subscribeEndpoints hheld s p h
  | onEndpoints ticket a => exact h.modify ticket a
  | subscribeProfile | onProfile => exact h.hosted

/-! ## Hosts of profiles -/

theorem number?_of_collect {s : ServiceRef} {state : ProfileState}
    (h : (ix.profiles.collect ix.profileSubs.watches).services[s]? = some state) :
    ix.profileTopics.number? s = some state.nextNumber := by
  rw [Profiles.collect, TreeMap.getElem?_filter'] at h
  exact Topics.number?_eq_some.mpr ⟨state, Option.eq_some_of_filter_eq_some h, rfl⟩

theorem numbers_profileOpening (ix : Index) (s : ServiceRef) :
    (ix.profileOpening s).nextNumber = 0 ∨
      ix.profileTopics.number? s = some (ix.profileOpening s).nextNumber := by
  cases hkept : (ix.profiles.collect ix.profileSubs.watches).services[s]? with
  | none =>
    refine .inl ?_
    rw [profileOpening, Profiles.state, TreeMap.getD_eq_getD_getElem?, hkept]
    rfl
  | some state =>
    have hopening : ix.profileOpening s = state := Profiles.state_of_getElem? hkept
    rw [hopening]
    exact .inr (number?_of_collect hkept)

theorem hosted_subscribeProfile {of : Nat → ServiceRef} (hheld : ix.profileTopics.Held)
    (s : ServiceRef)
    (h : profiles.Hosts of ix.cluster.queueCapacity ix.profileSubs ix.profileTopics.number?) :
    profiles.Hosted ix.cluster.queueCapacity (ix.subscribeProfile s).1.profileSubs
      (ix.subscribeProfile s).1.profileTopics.number? := by
  refine (subscribes_subscribeProfile ix s).hosted hheld (numbers_profileOpening ix s) ?_ h
  intro other n hother hn
  obtain ⟨state, hstate, rfl⟩ := Topics.number?_eq_some.mp hn
  change (ix.subscribeProfile s).1.profiles.services[other]? = some state at hstate
  rw [getElem?_services_subscribeProfile, if_neg (Ne.symm hother)] at hstate
  exact .inr (number?_of_collect hstate)

theorem hosted_profiles_perform {of : Nat → ServiceRef} (hheld : ix.profileTopics.Held)
    (op : Operation)
    (h : profiles.Hosts of ix.cluster.queueCapacity ix.profileSubs ix.profileTopics.number?) :
    profiles.Hosted ix.cluster.queueCapacity (ix.perform op).profileSubs
      (ix.perform op).profileTopics.number? := by
  cases profileStep_perform ix op with
  | set key resources _ _ eq =>
    rw [eq]
    refine (moves_setProfiles ix key resources).hosted hheld (fun s n hn => .inr ?_) h
    obtain ⟨state', hstate', rfl⟩ := Topics.number?_eq_some.mp hn
    have hreplaced := (Profiles.getElem?_services_replace ..).symm.trans hstate'
    obtain ⟨state, hstate, rfl⟩ := Option.map_eq_some_iff.mp hreplaced
    exact Topics.number?_eq_some.mpr ⟨state, hstate, (Profiles.nextNumber_relookup ..).symm⟩
  | subscribed s eq =>
    rw [eq]
    exact hosted_subscribeProfile hheld s h
  | acted ticket a eq =>
    rw [eq]
    exact h.modify ticket a
  | spared _ _ hprofiles hsubs =>
    have hnumber : (ix.perform op).profileTopics.number? = ix.profileTopics.number? :=
      funext fun s =>
        congrArg (fun p : Profiles => p.services[s]?.map ProfileState.nextNumber) hprofiles
    rw [hsubs, hnumber]
    exact h.hosted

/-! ## Runs -/

/-- The registries can go on so that they host the ports, and the profiles, of an index. -/
structure Hosted (ix : Index) (ports : Registries EndpointsEvent)
    (profiles : Registries (Option Profile)) : Prop where
  ports : ports.Hosted ix.cluster.queueCapacity ix.endpointSubs ix.portTopics.number?
  profiles : profiles.Hosted ix.cluster.queueCapacity ix.profileSubs ix.profileTopics.number?

theorem hosted_start (c : ClusterInfo) : (start c).Hosted {} {} where
  ports := by
    have hnumber : (start c).portTopics.number? = fun _ => none := by
      funext topic
      change ((start c).port? topic).map _ = none
      rw [port?, show (start c).services[topic.1]? = none from TreeMap.getElem?_emptyc]
      rfl
    rw [hnumber]
    exact (Registries.hosts_empty (fun _ => (⟨"", ""⟩, .http)) _).hosted
  profiles := by
    have hnumber : (start c).profileTopics.number? = fun _ => none := by
      funext s
      change ((start c).profiles.services[s]?).map _ = none
      rw [show (start c).profiles.services[s]? = none from TreeMap.getElem?_emptyc]
      rfl
    rw [hnumber]
    exact (Registries.hosts_empty (fun _ => ⟨"", ""⟩) _).hosted

theorem Hosted.perform (h : ix.Hosted ports profiles) (ha : ix.Anchored) (op : Operation) :
    (ix.perform op).Hosted ports profiles where
  ports := by
    rw [cluster_perform]
    exact h.ports.andThen (hosted_ports_perform ha.ports op)
  profiles := by
    rw [cluster_perform]
    exact h.profiles.andThen (hosted_profiles_perform ha.profiles op)

theorem Hosted.run (more : List Operation) :
    ∀ {ix : Index}, ix.Hosted ports profiles → ix.Anchored →
      (ix.run more).Hosted ports profiles := by
  induction more with
  | nil => exact fun h _ => h
  | cons op more ih => exact fun h ha => ih (h.perform ha op) (ha.perform op)

/-- In every run of any number of registries, also of ones that are dropped and made anew, handles
concern the subscriptions that they were made for alone, and the entry of a subscription is removed
from its registry once at most. The subscriptions to the ports of an index, and those to its
profiles, are those of a run of registries, which goes on as the index does. -/
theorem handles_reach_their_own :
    (∀ {ε : Type} (ops : List (Registries.Operation ε)),
      (({} : Registries ε).run ops).Faithful ∧ ∀ t, Registries.removals t {} ops ≤ 1) ∧
    ∀ (c : ClusterInfo) (ops : List Operation), ((start c).run ops).Hosted {} {} ∧
      ∀ ports profiles, ((start c).run ops).Hosted ports profiles →
        ∀ more, (((start c).run ops).run more).Hosted ports profiles := by
  refine ⟨fun ops => ⟨?_, fun t => ?_⟩, fun c ops => ⟨?_, fun ports profiles h more => ?_⟩⟩
  · exact (Registries.sound_empty.run ops).faithful
  · exact Registries.removals_le_one t ops Registries.sound_empty
  · exact (hosted_start c).run ops (anchored_start c)
  · exact h.run more (anchored_run c ops)

end Index

end MeshDestination
