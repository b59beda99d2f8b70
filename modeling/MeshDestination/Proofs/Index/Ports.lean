import MeshDestination.Proofs.Index.Run
import MeshDestination.Proofs.Topics
import MeshDestination.Proofs.View

/-!
# What operations do to service ports

Service ports are topics (`Index.portTopics`). An operation on resources changes the states of ports
and tells their subscriptions, a new subscription is added to a port, or subscribers and listeners
work (`Index.step_portTopics`). A port that is still listened to afterwards is never dropped.
Several such changes, one after the other, are an evolution (`Index.Evolves`). Invariants of ports
and subscriptions are proved of these steps and hold of every run.
-/

namespace MeshDestination

open Net Cluster Std EndpointsEvent

/-! ## No change -/

namespace PortState

theorem added_self (m : AddressMap) : added m m = [] := by
  rw [added, List.filter_eq_nil_iff]
  intro e he
  rw [AddressMap.mem_endpoints.mp he]
  simp

theorem removed_self (m : AddressMap) : removed m m = [] := by
  rw [List.eq_nil_iff_forall_not_mem]
  intro e he
  obtain ⟨hold, hnew⟩ := mem_removed.mp he
  rw [hold] at hnew
  cases hnew

/-- Nothing is told of a port that stays as it is. -/
theorem changes_self (s : PortState) : changes s s = [] := by
  rw [changes, difference, added_self, removed_self]
  simp

/-- What is told of a change depends on endpoints and on existence only. -/
theorem changes_congr {old new new' : PortState} (haddrs : new'.addrs = new.addrs)
    (hexists : new'.exists_ = new.exists_) : changes old new' = changes old new := by
  rw [changes, changes, haddrs, hexists]

instance : TopicState PortState EndpointsEvent where
  initial := initialEvents
  Tells old new events := events = changes old new
  next := nextNumber
  tells_self s := (changes_self s).symm

end PortState

/-! ## Ports of one service -/

namespace ServiceState

theorem mem_missingPorts {s : ServiceState} {p : Port} :
    p ∈ s.missingPorts ↔ s.declares p = true ∧ s.ports[p]? = none := by
  unfold missingPorts declares
  cases s.declared with
  | none => simp
  | some ports =>
    rw [List.mem_filter, TreeMap.mem_keys, TreeMap.contains_eq_isSome_getElem? (a := p),
      Bool.not_eq_true', Option.isSome_eq_false_iff, Option.isNone_iff_eq_none,
      TreeMap.mem_iff_contains]

theorem getElem?_foldl_insert_zero (ps : List Port) :
    ∀ (m : TreeMap Port Nat) (p : Port),
      (ps.foldl (fun m p => m.insert p 0) m)[p]? = if p ∈ ps then some 0 else m[p]? := by
  induction ps with
  | nil => intro m p; rfl
  | cons q ps ih =>
    intro m p
    rw [List.foldl_cons, ih]
    simp only [TreeMap.getElem?_insert, LawfulEqCmp.compare_eq_iff_eq]
    by_cases hps : p ∈ ps
    · simp [hps]
    · by_cases hq : q = p
      · simp [hq]
      · simp [hps, hq, Ne.symm hq]

/-- After a refresh there is a state for every port that is declared, and for every other one that
had a state and is watched. -/
theorem getElem?_ports_refresh (s : ServiceState) (ns : String) (pods : Pods)
    (watched : Port → Bool) (p : Port) :
    (s.refresh ns pods watched).ports[p]? =
      match s.ports[p]? with
      | some ps =>
        if s.declares p || watched p then some (s.portState ns pods p ps.nextNumber) else none
      | none => if s.declares p then some (s.portState ns pods p 0) else none := by
  simp only [refresh, TreeMap.getElem?_map, getElem?_foldl_insert_zero, TreeMap.getElem?_filter',
    mem_missingPorts]
  cases hp : s.ports[p]? with
  | none => by_cases hd : s.declares p = true <;> simp [hd]
  | some ps => by_cases hk : (s.declares p || watched p) = true <;> simp [hk, Option.filter]

theorem portState_of_refresh {s : ServiceState} {ns : String} {pods : Pods} {watched : Port → Bool}
    {p : Port} {ps : PortState} (h : (s.refresh ns pods watched).ports[p]? = some ps) :
    ∃ n, ps = s.portState ns pods p n := by
  rw [getElem?_ports_refresh] at h
  split at h
  · split at h
    · exact ⟨_, (Option.some.inj h).symm⟩
    · cases h
  · split at h
    · exact ⟨_, (Option.some.inj h).symm⟩
    · cases h

/-- A refresh does not drop a watched port. -/
theorem getElem?_ports_refresh_of_watched {s : ServiceState} {p : Port} {ps : PortState}
    (hp : s.ports[p]? = some ps) (ns : String) (pods : Pods) {watched : Port → Bool}
    (hw : watched p = true) :
    (s.refresh ns pods watched).ports[p]? = some (s.portState ns pods p ps.nextNumber) := by
  rw [getElem?_ports_refresh, hp]
  simp only [hw, Bool.or_true, if_true]

theorem isKept_of_watched {s : ServiceState} {p : Port} {ps : PortState}
    (hp : s.ports[p]? = some ps) {watched : Port → Bool} (hw : watched p = true) :
    s.isKept watched = true := by
  have hkey : p ∈ s.ports.keys := by
    rw [TreeMap.mem_keys, TreeMap.mem_iff_isSome_getElem?, hp]
    rfl
  rw [isKept, Bool.or_eq_true, List.any_eq_true]
  exact .inr ⟨p, hkey, hw⟩

end ServiceState

namespace Index

/-! ## Lookups after a change -/

theorem getElem?_setService (ix : Index) (s s' : ServiceRef) (state : ServiceState) :
    (ix.setService s state).services[s']? = if s = s' then some state else ix.services[s']? := by
  simp only [setService, TreeMap.getElem?_insert, LawfulEqCmp.compare_eq_iff_eq]

theorem port?_setService (ix : Index) (s s' : ServiceRef) (state : ServiceState) (p : Port) :
    (ix.setService s state).port? (s', p) =
      if s = s' then state.ports[p]? else ix.port? (s', p) := by
  unfold port?
  rw [getElem?_setService]
  split <;> rfl

theorem port?_eq_some {ix : Index} {topic : PortRef} {ps : PortState} :
    ix.port? topic = some ps ↔
      ∃ state, ix.services[topic.1]? = some state ∧ state.ports[topic.2]? = some ps :=
  Option.bind_eq_some_iff

theorem service_of_getElem? {ix : Index} {s : ServiceRef} {state : ServiceState}
    (h : ix.services[s]? = some state) : ix.service s = state := by
  rw [service, TreeMap.getD_eq_getD_getElem?, h]
  rfl

/-- The kept state of a port belongs to its service. -/
theorem getElem?_ports_service (ix : Index) (topic : PortRef) :
    (ix.service topic.1).ports[topic.2]? = ix.port? topic := by
  rw [service, TreeMap.getD_eq_getD_getElem?, port?]
  cases ix.services[topic.1]? with
  | none => exact TreeMap.getElem?_emptyc
  | some state => rfl

theorem port?_congr {ix ix' : Index} {s : ServiceRef} (h : ix'.service s = ix.service s) (p : Port) :
    ix'.port? (s, p) = ix.port? (s, p) := by
  rw [← getElem?_ports_service ix' (s, p), ← getElem?_ports_service ix (s, p)]
  exact congrArg (·.ports[p]?) h

theorem getElem?_collect (ix : Index) (s : ServiceRef) :
    ix.collect.services[s]? = ix.services[s]?.filter fun state => state.isKept (ix.watched s) :=
  TreeMap.getElem?_filter'

/-! ## Steps -/

/-- The state of a service port, as the present resources have it if none is kept. -/
def current (ix : Index) (topic : PortRef) : PortState :=
  (ix.service topic.1).port topic.1.ns ix.pods topic.2

theorem current_of_port? {ix : Index} {topic : PortRef} {ps : PortState}
    (h : ix.port? topic = some ps) : ix.current topic = ps := by
  rw [current, ServiceState.port, TreeMap.getD_eq_getD_getElem?, getElem?_ports_service, h]
  rfl

/-- The service ports with the subscriptions to them. -/
def portTopics (ix : Index) : Topics PortRef EndpointsEvent PortState :=
  ⟨ix.endpointSubs, ix.port?, ix.current, current_of_port?⟩

/-- What operations on resources, and new subscriptions, do to service ports and the subscriptions
to them. -/
inductive Evolves : Index → Index → Prop
  | told {before after} {events : PortRef → List EndpointsEvent}
    (h : Topics.Moves before.portTopics after.portTopics events) : Evolves before after
  | subscribed {before after} {topic : PortRef} {capacity : Nat} {ps : PortState}
    (h : Topics.Subscribes before.portTopics after.portTopics topic capacity ps) :
    Evolves before after
  | trans {before between after} (h : Evolves before between) (h' : Evolves between after) :
    Evolves before after

/-- From `before` to `after` no port changes, and every subscription keeps its log. -/
structure Retains (before after : Index) : Prop where
  subs : before.endpointSubs.Retains after.endpointSubs
  ports : ∀ topic, after.port? topic = before.port? topic

theorem Retains.portTopics {before after : Index} (h : Retains before after) :
    Topics.Retains before.portTopics after.portTopics := ⟨h.subs, h.ports⟩

theorem Evolves.of_same {before after : Index} (subs : after.endpointSubs = before.endpointSubs)
    (ports : ∀ topic, after.port? topic = before.port? topic) : Evolves before after :=
  .told (.of_drop subs fun _ hold => (ports _).trans hold)

theorem Evolves.numbered {before after : Index} (h : Evolves before after) :
    before.endpointSubs.Numbered → after.endpointSubs.Numbered := by
  induction h with
  | @told before after _ hm =>
    intro hn
    have hsubs : after.endpointSubs = _ := hm.subs
    rw [hsubs]
    exact hn.publish _
  | @subscribed before after _ _ _ hs =>
    intro hn
    have hsubs : after.endpointSubs = _ := hs.subs
    rw [hsubs]
    exact hn.subscribe _ _ _ _
  | trans _ _ ih ih' => exact fun hn => ih' (ih hn)

/-- Subscriptions keep their tickets, and only their subscribers and listeners end them or take
anything from them. -/
theorem Evolves.find? {before after : Index} (h : Evolves before after) {t : Nat} :
    ∀ sub, before.endpointSubs.find? t = some sub →
      ∃ sub', after.endpointSubs.find? t = some sub' ∧ sub.Extends sub' := by
  induction h with
  | @told before after events hm =>
    intro sub hsub
    have hsubs : after.endpointSubs = before.endpointSubs.publish events := hm.subs
    rw [hsubs, Subscriptions.find?_publish, hsub]
    exact ⟨_, rfl, Subscription.extends_foldl_offer _ sub⟩
  | @subscribed before after _ _ _ hs =>
    intro sub hsub
    have hsubs : after.endpointSubs = before.endpointSubs.subscribe _ _ _ _ := hs.subs
    rw [hsubs]
    exact ⟨sub, Subscriptions.find?_subscribe hsub _ _ _ _, .refl sub⟩
  | trans _ _ ih ih' =>
    intro sub hsub
    obtain ⟨sub', hsub', he⟩ := ih sub hsub
    obtain ⟨sub'', hsub'', he'⟩ := ih' sub' hsub'
    exact ⟨sub'', hsub'', he.trans he'⟩

/-! ## Ports that are told of

What is published is the change of every port that has a state before and after. -/

/-- Every service port that is listened to keeps a state, and would give the next subscription the
same number as before. -/
def Continues (before after : Index) : Prop :=
  ∀ topic old, before.endpointSubs.watches topic = true → before.port? topic = some old →
    ∃ new, after.port? topic = some new ∧ new.nextNumber = old.nextNumber

theorem moves_publishSince {before after : Index} (ports : Continues before after)
    (subs : after.endpointSubs = before.endpointSubs) :
    Topics.Moves before.portTopics (after.publishSince before).portTopics
      (changesAt before after) where
  subs := by
    change (after.publishSince before).endpointSubs = before.endpointSubs.publish _
    rw [publishSince, subs]
  tells {topic old} hw hold := by
    obtain ⟨new, hnew, -⟩ := ports topic old hw hold
    change before.port? topic = some old at hold
    change changesAt before after topic = PortState.changes old (after.current topic)
    rw [changesAt, hold, hnew, current_of_port? hnew]
  kept {topic old} hw _ hold := ports topic old hw hold

theorem continues_setService (ix : Index) {s : ServiceRef} {state : ServiceState}
    (ports : ∀ p old, ix.watched s p = true → ix.port? (s, p) = some old →
      ∃ new, state.ports[p]? = some new ∧ new.nextNumber = old.nextNumber) :
    Continues ix (ix.setService s state) := by
  rintro ⟨s', p⟩ old hw hold
  rw [port?_setService]
  split
  · next hs =>
    subst hs
    exact ports p old hw hold
  · exact ⟨old, hold, rfl⟩

theorem continues_refresh (ix : Index) (s : ServiceRef) {state : ServiceState}
    (hports : state.ports = (ix.service s).ports) :
    Continues ix (ix.setService s (state.refresh s.ns ix.pods (ix.watched s))) := by
  refine continues_setService ix fun p old hw hold => ?_
  have hp : state.ports[p]? = some old := by
    rw [hports, getElem?_ports_service ix (s, p), hold]
  exact ⟨_, ServiceState.getElem?_ports_refresh_of_watched hp s.ns ix.pods hw, rfl⟩

theorem continues_withoutResource (ix : Index) {s : ServiceRef} {state : ServiceState}
    (hstate : ix.services[s]? = some state) :
    Continues ix (ix.setService s state.withoutResource) := by
  refine continues_setService ix fun p old _ hold => ⟨old.cleared, ?_, rfl⟩
  have hp : state.ports[p]? = some old := by
    rw [← service_of_getElem? hstate, getElem?_ports_service ix (s, p), hold]
  rw [ServiceState.withoutResource, TreeMap.getElem?_map, hp]
  rfl

theorem moves_refreshService (ix : Index) (s : ServiceRef) {state : ServiceState}
    (hports : state.ports = (ix.service s).ports) :
    Topics.Moves ix.portTopics (ix.refreshService s state).portTopics
      (changesAt ix (ix.setService s (state.refresh s.ns ix.pods (ix.watched s)))) :=
  moves_publishSince (continues_refresh ix s hports) rfl

theorem continues_reresolve (ix : Index) (ns : String) (ips : List Ip) :
    Continues ix { ix with services := ix.services.map (ix.reresolveService ns ips) } := by
  rintro ⟨s, p⟩ old hw hold
  obtain ⟨state, hstate, hp⟩ := port?_eq_some.mp hold
  simp only [port?, TreeMap.getElem?_map, hstate, Option.map_some, Option.bind_some]
  unfold reresolveService
  split
  · split
    · exact ⟨_, ServiceState.getElem?_ports_refresh_of_watched hp ns _ hw, rfl⟩
    · exact ⟨old, hp, rfl⟩
  · exact ⟨old, hp, rfl⟩

/-- Pods may have changed before services are computed anew. -/
theorem moves_reresolve (ix : Index) (pods : Pods) (ns : String) (ips : List Ip) :
    ∃ events, Topics.Moves ix.portTopics
      (({ ix with pods } : Index).reresolve ns ips).portTopics events := by
  have hm := moves_publishSince (continues_reresolve { ix with pods } ns ips) rfl
  exact ⟨_, hm.subs, hm.tells, hm.kept⟩

/-! ## Ports that are dropped -/

/-- A service with a watched port is kept whole. -/
theorem port?_collect {ix : Index} {topic : PortRef} {ps : PortState}
    (hw : ix.endpointSubs.watches topic = true) (h : ix.port? topic = some ps) :
    ix.collect.port? topic = some ps := by
  obtain ⟨state, hstate, hp⟩ := port?_eq_some.mp h
  refine port?_eq_some.mpr ⟨state, ?_, hp⟩
  have hkept : state.isKept (ix.watched topic.1) = true := ServiceState.isKept_of_watched hp hw
  rw [getElem?_collect, hstate, Option.filter_some, if_pos hkept]

theorem port?_dropUnwatched {ix : Index} (s : ServiceRef) {topic : PortRef} {ps : PortState}
    (hw : ix.endpointSubs.watches topic = true) (h : ix.port? topic = some ps) :
    (ix.setService s ((ix.service s).dropUnwatched (ix.watched s))).port? topic = some ps := by
  obtain ⟨s', p⟩ := topic
  rw [port?_setService]
  split
  · next hs =>
    subst hs
    have hwatched : ix.watched s p = true := hw
    rw [ServiceState.dropUnwatched, TreeMap.getElem?_filter', getElem?_ports_service ix (s, p), h,
      Option.filter_some, if_pos hwatched]
  · exact h

theorem moves_collect (ix : Index) :
    Topics.Moves ix.portTopics ix.collect.portTopics fun _ => [] :=
  .of_drop rfl port?_collect

/-- Ports of other services than the one that is set are not told anything. -/
theorem changesAt_setService_of_ne (ix : Index) {s : ServiceRef} (state : ServiceState)
    {topic : PortRef} (hs : s ≠ topic.1) : changesAt ix (ix.setService s state) topic = [] := by
  obtain ⟨s', p⟩ := topic
  rw [changesAt, port?_setService, if_neg hs]
  cases ix.port? (s', p) with
  | none => rfl
  | some ps => exact PortState.changes_self ps

theorem service_setService (ix : Index) (s s' : ServiceRef) (state : ServiceState) :
    (ix.setService s state).service s' = if s = s' then state else ix.service s' := by
  unfold service
  rw [TreeMap.getD_eq_getD_getElem?, getElem?_setService, TreeMap.getD_eq_getD_getElem?]
  split <;> rfl

/-- A service is kept whole, or it has neither resource and is dropped. -/
theorem service_collect (ix : Index) (s : ServiceRef) :
    ix.collect.service s = ix.service s ∨
      ix.collect.service s = {} ∧ (ix.service s).declared = none ∧
        (ix.service s).backends = none := by
  rw [service, service, TreeMap.getD_eq_getD_getElem?, TreeMap.getD_eq_getD_getElem?,
    getElem?_collect]
  cases hs : ix.services[s]? with
  | none => exact .inl rfl
  | some state =>
    by_cases hkept : state.isKept (ix.watched s) = true
    · exact .inl (by rw [Option.filter_some, if_pos hkept])
    · refine .inr ⟨by rw [Option.filter_some, if_neg hkept]; rfl, ?_⟩
      rw [ServiceState.isKept, Bool.or_eq_true, Bool.or_eq_true, not_or, not_or] at hkept
      simpa using hkept.1

end Index

namespace ServiceState

/-- A service without its resource, none of whose ports has endpoints. -/
structure Vacant (s : ServiceState) : Prop where
  declared : s.declared = none
  ports : ∀ {p : Port} {ps : PortState}, s.ports[p]? = some ps →
    ps.addrs = {} ∧ ps.exists_ = false

theorem vacant_empty : ({} : ServiceState).Vacant where
  declared := rfl
  ports {p ps} h := by
    rw [show ({} : ServiceState).ports[p]? = none from TreeMap.getElem?_emptyc] at h
    cases h

theorem vacant_withoutResource (s : ServiceState) : s.withoutResource.Vacant where
  declared := rfl
  ports {p ps} h := by
    rw [withoutResource, TreeMap.getElem?_map] at h
    obtain ⟨old, -, rfl⟩ := Option.map_eq_some_iff.mp h
    exact ⟨rfl, rfl⟩

theorem vacant_refresh {s : ServiceState} (h : s.declared = none) (ns : String) (pods : Pods)
    (watched : Port → Bool) : (s.refresh ns pods watched).Vacant where
  declared := h
  ports {p ps} hps := by
    obtain ⟨n, rfl⟩ := portState_of_refresh hps
    refine ⟨?_, ?_⟩
    · rw [portState, addrs, h]
    · rw [portState, exists_, h]
      rfl

theorem Vacant.dropUnwatched {s : ServiceState} (h : s.Vacant) (watched : Port → Bool) :
    (s.dropUnwatched watched).Vacant where
  declared := h.declared
  ports {p ps} hps := by
    rw [ServiceState.dropUnwatched, TreeMap.getElem?_filter'] at hps
    exact h.ports (Option.eq_some_of_filter_eq_some hps)

/-- No port of a vacant service has endpoints, whether or not its state is kept. -/
theorem Vacant.port {s : ServiceState} (h : s.Vacant) (ns : String) (pods : Pods) (p : Port) :
    (s.port ns pods p).addrs = {} ∧ (s.port ns pods p).exists_ = false := by
  rw [ServiceState.port, TreeMap.getD_eq_getD_getElem?]
  cases hp : s.ports[p]? with
  | none =>
    rw [Option.getD_none, portState, addrs, exists_, h.declared]
    exact ⟨rfl, rfl⟩
  | some ps => exact h.ports hp

end ServiceState

namespace Index

theorem vacant_collect {ix : Index} {s : ServiceRef} (h : (ix.service s).Vacant) :
    (ix.collect.service s).Vacant := by
  rcases service_collect ix s with hs | ⟨hs, -⟩
  · rwa [hs]
  · rw [hs]
    exact ServiceState.vacant_empty

/-- Listeners are told the same of all states of the ports of vacant services. -/
theorem changes_current_of_vacant {ix ix' : Index} {topic : PortRef}
    (h : (ix.service topic.1).Vacant) (h' : (ix'.service topic.1).Vacant) (old : PortState) :
    PortState.changes old (ix'.current topic) = PortState.changes old (ix.current topic) := by
  obtain ⟨haddrs, hexists⟩ := h.port topic.1.ns ix.pods topic.2
  obtain ⟨haddrs', hexists'⟩ := h'.port topic.1.ns ix'.pods topic.2
  exact PortState.changes_congr (haddrs'.trans haddrs.symm) (hexists'.trans hexists.symm)

/-! ## Operations as steps -/

theorem moves_deleteService (ix : Index) (s : ServiceRef) :
    ∃ events, Topics.Moves ix.portTopics (ix.deleteService s).portTopics events := by
  unfold deleteService
  split
  · next state hstate =>
    have hm := moves_publishSince (continues_withoutResource ix hstate) rfl
    refine ⟨_, hm.drop rfl ?_ ?_⟩
    · exact fun hw hold => port?_collect hw (port?_dropUnwatched s hw hold)
    · -- Only ports of the service itself were told anything, and it is vacant before and after.
      intro topic old htold _ htells
      have hs : s = topic.1 := by
        by_contra hs
        exact htold (changesAt_setService_of_ne ix _ hs)
      subst hs
      have hvacant : (((ix.setService topic.1 state.withoutResource).publishSince ix).service
          topic.1).Vacant := by
        change ((ix.setService topic.1 _).service topic.1).Vacant
        rw [service_setService, if_pos rfl]
        exact state.vacant_withoutResource
      refine Eq.trans htells (changes_current_of_vacant hvacant (vacant_collect ?_) old).symm
      rw [service_setService, if_pos rfl]
      exact hvacant.dropUnwatched _
  · exact ⟨_, moves_collect ix⟩

theorem moves_deleteEndpoints (ix : Index) (s : ServiceRef) :
    ∃ events, Topics.Moves ix.portTopics (ix.deleteEndpoints s).portTopics events := by
  unfold deleteEndpoints
  split
  · next state hstate =>
    have hports : ({ state with backends := none } : ServiceState).ports =
        (ix.service s).ports := by
      rw [service_of_getElem? hstate]
    refine ⟨_, (moves_refreshService ix s hports).drop rfl port?_collect ?_⟩
    -- Only ports of the service itself were told anything, and it is kept or vacant.
    intro topic old htold _ htells
    have hs : s = topic.1 := by
      by_contra hs
      exact htold (changesAt_setService_of_ne ix _ hs)
    subst hs
    refine Eq.trans htells ?_
    rcases service_collect (ix.refreshService topic.1 { state with backends := none }) topic.1
      with hsame | ⟨-, hdeclared, -⟩
    · change _ = PortState.changes old (ServiceState.port _ _ _ _)
      rw [hsame]
      rfl
    · have hvacant : ((ix.refreshService topic.1 { state with backends := none }).service
          topic.1).Vacant := by
        change ((ix.setService topic.1 _).service topic.1).declared = none at hdeclared
        change ((ix.setService topic.1 _).service topic.1).Vacant
        rw [service_setService, if_pos rfl] at hdeclared ⊢
        have hnone : ({ state with backends := none } : ServiceState).declared = none := hdeclared
        exact ServiceState.vacant_refresh hnone _ _ _
      exact (changes_current_of_vacant hvacant (vacant_collect hvacant) old).symm
  · exact ⟨_, moves_collect ix⟩

/-- The state from which a new subscription to a port starts. -/
def opening (ix : Index) (s : ServiceRef) (p : Port) : PortState :=
  (ix.collect.service s).port s.ns ix.pods p

theorem port?_subscribeEndpoints (ix : Index) (s : ServiceRef) (p : Port) (topic : PortRef) :
    (ix.subscribeEndpoints s p).1.port? topic =
      if (s, p) = topic then
        some { ix.opening s p with nextNumber := (ix.opening s p).nextNumber + 1 }
      else ix.collect.port? topic := by
  obtain ⟨s', p'⟩ := topic
  change (setService _ _ _).port? (s', p') = _
  rw [port?_setService]
  by_cases hs : s = s'
  · subst hs
    simp only [if_true, TreeMap.getElem?_insert, LawfulEqCmp.compare_eq_iff_eq, Prod.mk.injEq,
      true_and]
    split
    · rfl
    · exact getElem?_ports_service ix.collect (s, p')
  · rw [if_neg hs, if_neg fun h => hs (congrArg Prod.fst h)]

theorem subscribes_subscribeEndpoints (ix : Index) (s : ServiceRef) (p : Port) :
    Topics.Subscribes ix.portTopics (ix.subscribeEndpoints s p).1.portTopics (s, p)
      ix.cluster.queueCapacity (ix.opening s p) where
  subs := rfl
  joins hw hold := current_of_port? (port?_collect hw hold)
  new := by
    refine ⟨_, (port?_subscribeEndpoints ix s p (s, p)).trans (if_pos rfl), ?_, rfl⟩
    exact (PortState.changes_self (ix.opening s p)).symm
  kept htopic hw hold :=
    (port?_subscribeEndpoints ix s p _).trans ((if_neg htopic).trans (port?_collect hw hold))

/-- Where neither ports nor subscriptions change, nothing is told. -/
theorem moves_of_same {before after : Index} (subs : after.endpointSubs = before.endpointSubs)
    (services : after.services = before.services) :
    ∃ events, Topics.Moves before.portTopics after.portTopics events := by
  refine ⟨_, .of_drop subs fun {topic s} _ hold => ?_⟩
  change before.port? topic = some s at hold
  change after.port? topic = some s
  rw [← hold, port?, port?, services]

theorem moves_applyNamed (ix : Index) (ns name : String) (r : Resource) :
    ∃ events, Topics.Moves ix.portTopics (ix.applyNamed ns name r).1.portTopics events := by
  cases r with
  | service o => exact ⟨_, moves_refreshService ix ⟨ns, name⟩ rfl⟩
  | endpoints o => exact ⟨_, moves_refreshService ix ⟨ns, name⟩ rfl⟩
  | pod o => exact moves_reresolve ix _ ns _
  | replicaSet o => exact moves_of_same rfl rfl
  | serviceProfile o =>
    simp only [applyNamed]
    cases Profile.ofSpec o.spec with
    | error e => exact moves_of_same rfl rfl
    | ok profile => exact moves_of_same rfl rfl

theorem moves_apply (ix : Index) (r : Resource) :
    ∃ events, Topics.Moves ix.portTopics (ix.apply r).1.portTopics events := by
  unfold apply
  split
  · exact moves_applyNamed ix _ _ r
  · cases r <;> exact moves_of_same rfl rfl

theorem moves_delete (ix : Index) (kind : Kind) (ns name : String) :
    ∃ events, Topics.Moves ix.portTopics (ix.delete kind ns name).portTopics events := by
  cases kind with
  | service => exact moves_deleteService ix ⟨ns, name⟩
  | endpoints => exact moves_deleteEndpoints ix ⟨ns, name⟩
  | pod => exact moves_reresolve ix _ ns _
  | replicaSet => exact moves_of_same rfl rfl
  | serviceProfile =>
    change ∃ events, Topics.Moves ix.portTopics (ix.deleteProfile _).portTopics events
    unfold deleteProfile
    split
    · exact moves_of_same rfl rfl
    · exact moves_of_same rfl rfl

/-- Every operation is one step of service ports. -/
theorem step_portTopics (ix : Index) (op : Operation) :
    Topics.Step ix.portTopics (ix.perform op).portTopics fun t a => op = .onEndpoints t a := by
  cases op with
  | apply r =>
    obtain ⟨events, hm⟩ := moves_apply ix r
    exact .moves hm
  | delete kind ns name =>
    obtain ⟨events, hm⟩ := moves_delete ix kind ns name
    exact .moves hm
  | subscribeEndpoints s p => exact .subscribes (subscribes_subscribeEndpoints ix s p)
  | subscribeProfile s =>
    obtain ⟨events, hm⟩ : ∃ events, Topics.Moves ix.portTopics
        (ix.subscribeProfile s).1.portTopics events := moves_of_same rfl rfl
    exact .moves hm
  | onEndpoints ticket a => exact .acts rfl ⟨rfl, fun _ => rfl⟩
  | onProfile ticket a =>
    obtain ⟨events, hm⟩ : ∃ events, Topics.Moves ix.portTopics
        (ix.perform (.onProfile ticket a)).portTopics events := moves_of_same rfl rfl
    exact .moves hm

theorem evolves_apply (ix : Index) (r : Resource) : Evolves ix (ix.apply r).1 := by
  obtain ⟨events, hm⟩ := moves_apply ix r
  exact .told hm

theorem evolves_delete (ix : Index) (kind : Kind) (ns name : String) :
    Evolves ix (ix.delete kind ns name) := by
  obtain ⟨events, hm⟩ := moves_delete ix kind ns name
  exact .told hm

theorem evolves_subscribeEndpoints (ix : Index) (s : ServiceRef) (p : Port) :
    Evolves ix (ix.subscribeEndpoints s p).1 :=
  .subscribed (subscribes_subscribeEndpoints ix s p)

end Index

end MeshDestination
