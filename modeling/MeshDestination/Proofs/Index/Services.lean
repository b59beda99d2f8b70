import MeshDestination.Proofs.Index.Ports

/-!
# What operations do to a service

To the state of one service an operation does one of a few things (`ServiceState.Change`): it
computes all ports anew, takes the service resource away, opens a port, or leaves the state as it
is, and a state that nothing keeps is dropped. Operations on pods compute those services anew that
list an affected address in the pod's namespace (`Index.service_reresolve`); all others leave the
pods as they are (`Index.change_perform`).
-/

namespace MeshDestination

open Net Cluster Std

/-- What an operation makes of the state of a service in a namespace, by the pods that are known. -/
inductive ServiceState.Change (ns : String) (pods : Pods) : ServiceState → ServiceState → Prop
  | same (s : ServiceState) : Change ns pods s s
  /-- The resources may be new ones. -/
  | refreshed (s state : ServiceState) (watched : Port → Bool) (ports : state.ports = s.ports) :
    Change ns pods s (state.refresh ns pods watched)
  | cleared (s : ServiceState) (watched : Port → Bool) :
    Change ns pods s (s.withoutResource.dropUnwatched watched)
  | opened (s : ServiceState) (p : Port) (nextNumber : Nat) :
    Change ns pods s
      { s with ports := s.ports.insert p { s.port ns pods p with nextNumber := nextNumber } }
  | dropped (s : ServiceState) (declared : s.declared = none) (backends : s.backends = none) :
    Change ns pods s {}
  | trans {s s' s'' : ServiceState} (h : Change ns pods s s') (h' : Change ns pods s' s'') :
    Change ns pods s s''

namespace Index

open ServiceState

variable (ix : Index) (s : ServiceRef)

theorem change_collect (pods : Pods) :
    Change s.ns pods (ix.service s) (ix.collect.service s) := by
  rcases service_collect ix s with hs | ⟨hs, hd, hb⟩
  · rw [hs]
    exact .same _
  · rw [hs]
    exact .dropped _ hd hb

/-- What is collected takes its ports along. -/
theorem service_collect_of_port? {ix : Index} {s : ServiceRef} {p : Port} {ps : PortState}
    (h : ix.collect.port? (s, p) = some ps) : ix.collect.service s = ix.service s := by
  rcases service_collect ix s with hs | ⟨hs, -⟩
  · exact hs
  · rw [← getElem?_ports_service ix.collect (s, p), hs] at h
    cases TreeMap.getElem?_emptyc.symm.trans h

theorem port?_of_collect {ix : Index} {s : ServiceRef} {p : Port} {ps : PortState}
    (h : ix.collect.port? (s, p) = some ps) : ix.port? (s, p) = some ps :=
  (port?_congr (service_collect_of_port? h) p).symm.trans h

theorem service_refreshService (s' : ServiceRef) (state : ServiceState) :
    (ix.refreshService s' state).service s =
      if s' = s then state.refresh s'.ns ix.pods (ix.watched s') else ix.service s :=
  service_setService ix s' s _

theorem change_refreshService (s' : ServiceRef) {state : ServiceState}
    (hports : state.ports = (ix.service s').ports) :
    Change s.ns ix.pods (ix.service s) ((ix.refreshService s' state).service s) := by
  rw [service_refreshService]
  split
  · next hs =>
    subst hs
    exact .refreshed _ state _ hports
  · exact .same _

theorem change_deleteService (s' : ServiceRef) :
    Change s.ns ix.pods (ix.service s) ((ix.deleteService s').service s) := by
  unfold deleteService
  split
  · next state hstate =>
    refine .trans ?_ (change_collect _ s ix.pods)
    rw [service_setService]
    split
    · next hs =>
      subst hs
      change Change _ _ _ (((ix.setService s' state.withoutResource).service s').dropUnwatched _)
      rw [service_setService, if_pos rfl, service_of_getElem? hstate]
      exact .cleared state _
    · next hs =>
      change Change _ _ _ ((ix.setService s' state.withoutResource).service s)
      rw [service_setService, if_neg hs]
      exact .same _
  · exact change_collect ix s ix.pods

/-- The ports that stay when their service resource is deleted are listened to, and are cleared. -/
theorem port?_deleteService {ix : Index} {s s' : ServiceRef} {p : Port} {ps : PortState}
    (h : (ix.deleteService s').port? (s, p) = some ps) :
    ∃ old, ix.port? (s, p) = some old ∧ (ps = if s' = s then old.cleared else old) ∧
      (s' = s → (ix.deleteService s').watched s p = true) := by
  revert h
  unfold deleteService
  split
  · next state hstate =>
    intro h
    have hps := port?_of_collect h
    rw [port?_setService] at hps
    split at hps
    · next hs =>
      subst hs
      rw [dropUnwatched, TreeMap.getElem?_filter'] at hps
      obtain ⟨hps, hwatched⟩ := Option.filter_eq_some_iff.mp hps
      change ((ix.setService s' state.withoutResource).service s').ports[p]? = some ps at hps
      rw [service_setService, if_pos rfl, withoutResource, TreeMap.getElem?_map] at hps
      obtain ⟨old, hold, rfl⟩ := Option.map_eq_some_iff.mp hps
      exact ⟨old, port?_eq_some.mpr ⟨state, hstate, hold⟩, (if_pos rfl).symm, fun _ => hwatched⟩
    · next hs =>
      change (ix.setService s' _).port? (s, p) = some ps at hps
      rw [port?_setService, if_neg hs] at hps
      exact ⟨ps, hps, (if_neg hs).symm, fun hs' => absurd hs' hs⟩
  · next hnone =>
    intro h
    have hps := port?_of_collect h
    have hs : s' ≠ s := by
      rintro rfl
      obtain ⟨state, hstate, -⟩ := port?_eq_some.mp hps
      cases hnone.symm.trans hstate
    exact ⟨ps, hps, (if_neg hs).symm, fun hs' => absurd hs' hs⟩

theorem change_deleteEndpoints (s' : ServiceRef) :
    Change s.ns ix.pods (ix.service s) ((ix.deleteEndpoints s').service s) := by
  unfold deleteEndpoints
  split
  · next state hstate =>
    refine .trans (change_refreshService ix s s' ?_) (change_collect _ s ix.pods)
    rw [service_of_getElem? hstate]
  · exact change_collect ix s ix.pods

theorem change_subscribeEndpoints (s' : ServiceRef) (p : Port) :
    Change s.ns ix.pods (ix.service s) ((ix.subscribeEndpoints s' p).1.service s) := by
  refine .trans (change_collect ix s ix.pods) ?_
  change Change _ _ _ ((ix.collect.setService s' _).service s)
  rw [service_setService]
  split
  · next hs =>
    subst hs
    exact .opened _ p _
  · exact .same _

/-! ## Operations on pods -/

/-- A service is computed anew when it is in the namespace and lists one of the addresses, and stays
as it is otherwise. -/
theorem service_reresolve (ns : String) (ips : List Ip) :
    (∃ b, (ix.service s).backends = some b ∧ s.ns = ns ∧ b.mentions ips = true ∧
      (ix.reresolve ns ips).service s =
        (ix.service s).refresh s.ns ix.pods (ix.watched s)) ∨
    ((∀ b, (ix.service s).backends = some b → s.ns = ns → b.mentions ips = false) ∧
      (ix.reresolve ns ips).service s = ix.service s) := by
  have hservice : (ix.reresolve ns ips).service s =
      (ix.services[s]?.map (ix.reresolveService ns ips s)).getD {} := by
    rw [service, TreeMap.getD_eq_getD_getElem?, reresolve, publishSince, TreeMap.getElem?_map]
  rw [hservice, service, TreeMap.getD_eq_getD_getElem?]
  cases ix.services[s]? with
  | none => exact .inr ⟨fun b hb => absurd hb (by simp), rfl⟩
  | some state =>
    simp only [Option.map_some, Option.getD_some, reresolveService]
    cases hb : state.backends with
    | none => exact .inr ⟨fun b hb => absurd hb (by simp), rfl⟩
    | some b =>
      by_cases hns : s.ns = ns
      · subst hns
        by_cases hips : b.mentions ips = true
        · exact .inl ⟨b, rfl, rfl, hips, by simp [hips]⟩
        · refine .inr ⟨fun b' hb' _ => ?_, by simp [hips]⟩
          cases hb'
          exact Bool.eq_false_iff.mpr hips
      · exact .inr ⟨fun b' _ h => absurd h hns, by simp [hns]⟩

/-- The operation records or forgets a pod or a replica set. -/
def Operation.OnPods : Operation → Prop
  | .apply (.pod _) | .apply (.replicaSet _) => True
  | .delete .pod _ _ | .delete .replicaSet _ _ => True
  | _ => False

/-- What an operation on anything else than pods makes of a service. -/
theorem change_perform {op : Operation} (hop : ¬op.OnPods) :
    Change s.ns ix.pods (ix.service s) ((ix.perform op).service s) := by
  cases op with
  | apply r =>
    change Change _ _ _ ((ix.apply r).1.service s)
    unfold apply
    split
    · cases r with
      | service o => exact change_refreshService ix s _ rfl
      | endpoints o => exact change_refreshService ix s _ rfl
      | pod o => exact absurd trivial hop
      | replicaSet o => exact absurd trivial hop
      | serviceProfile o =>
        rw [applyNamed]
        split <;> exact .same _
    · cases r <;> exact .same _
  | delete kind ns name =>
    cases kind with
    | service => exact change_deleteService ix s _
    | endpoints => exact change_deleteEndpoints ix s _
    | pod => exact absurd trivial hop
    | replicaSet => exact absurd trivial hop
    | serviceProfile =>
      change Change _ _ _ ((ix.deleteProfile _).service s)
      unfold deleteProfile
      split <;> exact .same _
  | subscribeEndpoints s' p => exact change_subscribeEndpoints ix s s' p
  | subscribeProfile s' => exact .same _
  | onEndpoints ticket a => exact .same _
  | onProfile ticket a => exact .same _

end Index

end MeshDestination
