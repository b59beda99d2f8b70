import Mathlib.Data.List.Induction
import MeshDestination.Proofs.Index.Services
import MeshDestination.Proofs.Index.Snapshot

/-!
# Ports that nobody listens to any more

A new subscription drops the services that nothing keeps, each with all its ports. A port that is
neither declared nor listened to is dropped with its service then, or by the next operation on a
resource of its service; it stays listed as long as neither happens (`Index.Lingers`,
`Index.listed_after_subscribe`).
-/

namespace MeshDestination

open Cluster Std

theorem Subscriptions.watches_subscribe {τ ε : Type} [DecidableEq τ] (s : Subscriptions τ ε)
    (topic : τ) (number capacity : Nat) (initial : List ε) (topic' : τ) :
    (s.subscribe topic number capacity initial).watches topic' =
      (s.watches topic' || decide (topic = topic')) := by
  simp [Subscriptions.watches, Subscriptions.subscribe, Subscription.isRegistered]

namespace Index

/-! ## Where a kept port comes from -/

/-- An operation on a resource of a service. -/
def Operation.Renews (s : ServiceRef) : Operation → Prop
  | .apply (.service o) => (Resource.service o).key? = some ⟨s.ns, s.name⟩
  | .apply (.endpoints o) => (Resource.endpoints o).key? = some ⟨s.ns, s.name⟩
  | .delete .service ns name | .delete .endpoints ns name => s = ⟨ns, name⟩
  | _ => False

/-- Why a port has a state after a step: it is needed, or was listened to before the step, or it had
a state before and its service is not renewed. -/
inductive Origin (before after : Index) (renewed : Prop) (s : ServiceRef) (p : Port) : Prop
  | declared (h : (after.service s).declares p = true)
  | watched (h : after.watched s p = true)
  | left (h : before.watched s p = true)
  | kept (h : ¬renewed) (ps : PortState) (hps : before.port? (s, p) = some ps)

variable {before after ix : Index} {renewed : Prop} {s : ServiceRef} {p : Port} {ps : PortState}

/-- A port of a service that is refreshed is declared, or it was listened to. -/
theorem origin_of_refresh {state : ServiceState}
    (hs : after.service s = state.refresh s.ns after.pods (before.watched s))
    (h : after.port? (s, p) = some ps) : Origin before after renewed s p := by
  have hports : (after.service s).ports[p]? = some ps := (getElem?_ports_service after (s, p)).trans h
  have hdeclares : (after.service s).declares p = state.declares p := by
    rw [hs]
    rfl
  rw [hs, ServiceState.getElem?_ports_refresh] at hports
  by_cases hdeclared : state.declares p = true
  · exact .declared (hdeclares.trans hdeclared)
  · rw [Bool.not_eq_true] at hdeclared
    rw [hdeclared, Bool.false_or] at hports
    split at hports
    · by_cases hw : before.watched s p = true
      · exact .left hw
      · rw [if_neg hw] at hports
        cases hports
    · cases hports

theorem origin_of_same (hs : after.service s = before.service s) (hr : ¬renewed)
    (h : after.port? (s, p) = some ps) : Origin before after renewed s p :=
  .kept hr ps ((port?_congr hs p).symm.trans h)

theorem origin_refreshService {s' : ServiceRef} {state : ServiceState} (hr : s' ≠ s → ¬renewed)
    (h : (ix.refreshService s' state).port? (s, p) = some ps) :
    Origin ix (ix.refreshService s' state) renewed s p := by
  have hservice := service_refreshService ix s s' state
  by_cases hs : s' = s
  · subst hs
    exact origin_of_refresh (hservice.trans (if_pos rfl)) h
  · exact origin_of_same (hservice.trans (if_neg hs)) (hr hs) h

theorem origin_reresolve (pods : Pods) (ns : String) (ips : List Net.Ip) (hr : ¬renewed)
    (h : (({ ix with pods } : Index).reresolve ns ips).port? (s, p) = some ps) :
    Origin ix (({ ix with pods } : Index).reresolve ns ips) renewed s p := by
  rcases service_reresolve { ix with pods } s ns ips with ⟨-, -, -, -, hs⟩ | ⟨-, hs⟩
  · exact origin_of_refresh hs h
  · exact origin_of_same hs hr h

theorem Origin.collect (ho : ∀ ps, after.port? (s, p) = some ps → Origin before after renewed s p)
    (h : after.collect.port? (s, p) = some ps) : Origin before after.collect renewed s p := by
  have hs := service_collect_of_port? h
  cases ho ps ((port?_congr hs p).symm.trans h) with
  | declared h => exact .declared (hs ▸ h)
  | watched h => exact .watched h
  | left h => exact .left h
  | kept hr ps hps => exact .kept hr ps hps

/-- Nothing else happens when a resource of a service that is unknown is deleted. -/
theorem origin_collect_of_none {s' : ServiceRef} (hs' : ix.services[s']? = none)
    (hr : s' ≠ s → ¬renewed) (h : ix.collect.port? (s, p) = some ps) :
    Origin ix ix.collect renewed s p := by
  by_cases hs : s' = s
  · subst hs
    rw [port?_congr (service_collect_of_port? h), port?, hs'] at h
    cases h
  · exact Origin.collect (fun ps hps => .kept (hr hs) ps hps) h

/-- Of a service whose resource is deleted, the ports stay that are listened to. -/
theorem origin_deleteService {s' : ServiceRef} (hr : s' ≠ s → ¬renewed)
    (h : (ix.deleteService s').port? (s, p) = some ps) :
    Origin ix (ix.deleteService s') renewed s p := by
  obtain ⟨old, hold, -, hwatched⟩ := port?_deleteService h
  by_cases hs : s' = s
  · exact .watched (hwatched hs)
  · exact .kept (hr hs) old hold

theorem origin_deleteEndpoints {s' : ServiceRef} (hr : s' ≠ s → ¬renewed)
    (h : (ix.deleteEndpoints s').port? (s, p) = some ps) :
    Origin ix (ix.deleteEndpoints s') renewed s p := by
  revert h
  unfold deleteEndpoints
  split
  · exact Origin.collect fun ps hps => origin_refreshService hr hps
  · next hnone => exact origin_collect_of_none hnone hr

theorem watched_subscribeEndpoints (ix : Index) (s : ServiceRef) (p : Port) (s' : ServiceRef)
    (p' : Port) : (ix.subscribeEndpoints s p).1.watched s' p' =
      (ix.watched s' p' || decide ((s, p) = (s', p'))) :=
  Subscriptions.watches_subscribe ..

theorem origin_subscribeEndpoints {s' : ServiceRef} {p' : Port} (hr : ¬renewed)
    (h : (ix.subscribeEndpoints s' p').1.port? (s, p) = some ps) :
    Origin ix (ix.subscribeEndpoints s' p').1 renewed s p := by
  by_cases htopic : (s', p') = (s, p)
  · refine .watched ?_
    rw [watched_subscribeEndpoints, decide_eq_true htopic, Bool.or_true]
  · rw [port?_subscribeEndpoints, if_neg htopic] at h
    exact .kept hr ps (port?_of_collect h)

theorem origin_apply {r : Resource} (h : (ix.apply r).1.port? (s, p) = some ps) :
    Origin ix (ix.apply r).1 (Operation.Renews s (.apply r)) s p := by
  cases hname : r.meta_.name with
  | some name =>
    have hother (hs : (⟨r.meta_.namespaceName, name⟩ : ServiceRef) ≠ s) :
        ¬r.key? = some ⟨s.ns, s.name⟩ := by
      rw [Resource.key?, hname, Option.map_some, Option.some.injEq]
      intro hkey
      obtain ⟨hns, hname'⟩ := ObjectKey.mk.inj hkey
      exact hs (by rw [hns, hname'])
    simp only [apply, hname] at h ⊢
    cases r with
    | service o => exact origin_refreshService hother h
    | endpoints o => exact origin_refreshService hother h
    | pod o => exact origin_reresolve _ _ _ not_false h
    | replicaSet o => exact .kept not_false ps h
    | serviceProfile o =>
      simp only [applyNamed] at h ⊢
      cases hspec : Profile.ofSpec o.spec with
      | error e =>
        rw [hspec] at h
        exact .kept not_false ps h
      | ok profile =>
        rw [hspec] at h
        exact .kept not_false ps h
  | none =>
    have hkey : ¬r.key? = some ⟨s.ns, s.name⟩ := by simp [Resource.key?, hname]
    simp only [apply, hname] at h ⊢
    cases r with
    | service | endpoints => exact .kept hkey ps h
    | pod | replicaSet | serviceProfile => exact .kept not_false ps h

theorem origin_delete {kind : Kind} {ns name : String}
    (h : (ix.delete kind ns name).port? (s, p) = some ps) :
    Origin ix (ix.delete kind ns name) (Operation.Renews s (.delete kind ns name)) s p := by
  cases kind with
  | service => exact origin_deleteService (fun hs heq => hs heq.symm) h
  | endpoints => exact origin_deleteEndpoints (fun hs heq => hs heq.symm) h
  | pod => exact origin_reresolve _ _ _ not_false h
  | replicaSet => exact .kept not_false ps h
  | serviceProfile =>
    change (ix.deleteProfile _).port? (s, p) = some ps at h
    change Origin ix (ix.deleteProfile _) _ s p
    unfold deleteProfile at h ⊢
    split at h
    · next hkept =>
      rw [if_pos hkept]
      exact .kept not_false ps h
    · next hkept =>
      rw [if_neg hkept]
      exact .kept not_false ps h

theorem origin_perform {op : Operation} (h : (ix.perform op).port? (s, p) = some ps) :
    Origin ix (ix.perform op) (op.Renews s) s p := by
  cases op with
  | apply r => exact origin_apply h
  | delete kind ns name => exact origin_delete h
  | subscribeEndpoints s' p' => exact origin_subscribeEndpoints not_false h
  | subscribeProfile | onEndpoints | onProfile => exact .kept not_false ps h

/-! ## Runs -/

/-- The service resource that is applied and not deleted since declares a port. -/
def Declares (ops : List Operation) (s : ServiceRef) (p : Port) : Prop :=
  ∃ o, appliedService ops s = some o ∧ (o.declaration? p).isSome = true

/-- A port was listened to, and no operation since the one that may have ended this was on a
resource of its service. -/
def Lingers (c : ClusterInfo) (ops : List Operation) (s : ServiceRef) (p : Port) : Prop :=
  ∃ done op since, ops = done ++ op :: since ∧ ((start c).run done).watched s p = true ∧
    ∀ op' ∈ since, ¬op'.Renews s

variable {c : ClusterInfo} {ops : List Operation}

theorem declares_iff : (((start c).run ops).service s).declares p = true ↔ Declares ops s p := by
  have hdeclared := (tracks_applied c ops s).declared
  rw [ServiceState.declares, hdeclared, Declares]
  cases appliedService ops s with
  | none => simp
  | some o =>
    rw [Option.map_some]
    simp only [TreeMap.contains_eq_isSome_getElem?, getElem?_declaredPorts, Option.isSome_map,
      Option.some.injEq, exists_eq_left']

theorem record_service_of_not_renews {op : Operation} (hop : ¬op.Renews s)
    (svc : Option ServiceObject) :
    record Resource.service? .service ⟨s.ns, s.name⟩ svc op = svc := by
  cases op with
  | apply r =>
    cases r with
    | service o => exact if_neg hop
    | endpoints | pod | replicaSet | serviceProfile => exact ite_self _
  | delete kind ns name =>
    rw [record_delete]
    refine if_neg ?_
    rintro ⟨rfl, hs⟩
    exact hop hs.symm
  | subscribeEndpoints | subscribeProfile | onEndpoints | onProfile => rfl

/-- The declared ports stay while the service is not renewed. -/
theorem Declares.concat (h : Declares ops s p) {op : Operation} (hop : ¬op.Renews s) :
    Declares (ops ++ [op]) s p := by
  obtain ⟨o, ho, hp⟩ := h
  refine ⟨o, ?_, hp⟩
  rw [appliedService, applied_concat, record_service_of_not_renews hop]
  exact ho

theorem Lingers.concat (h : Lingers c ops s p) {op : Operation} (hop : ¬op.Renews s) :
    Lingers c (ops ++ [op]) s p := by
  obtain ⟨done, op', since, rfl, hwatched, hsince⟩ := h
  refine ⟨done, op', since ++ [op], by simp, hwatched, fun op'' hmem => ?_⟩
  rcases List.mem_append.mp hmem with hmem | hmem
  · exact hsince op'' hmem
  · rwa [List.mem_singleton.mp hmem]

theorem lingers_concat (h : ((start c).run ops).watched s p = true) (op : Operation) :
    Lingers c (ops ++ [op]) s p :=
  ⟨ops, op, [], rfl, h, fun _ hmem => absurd hmem List.not_mem_nil⟩

/-- A port with a state is needed or lingers. -/
theorem needed_or_lingers (c : ClusterInfo) (ops : List Operation) :
    ∀ ps, ((start c).run ops).port? (s, p) = some ps →
      Declares ops s p ∨ ((start c).run ops).watched s p = true ∨ Lingers c ops s p := by
  induction ops using List.reverseRecOn with
  | nil =>
    intro ps hps
    rw [port?, show ((start c).run []).services[s]? = none from TreeMap.getElem?_emptyc] at hps
    cases hps
  | append_singleton ops op ih =>
    intro ps hps
    rw [run_concat] at hps
    cases origin_perform hps with
    | declared h =>
      rw [← run_concat] at h
      exact .inl (declares_iff.mp h)
    | watched h =>
      rw [run_concat]
      exact .inr (.inl h)
    | left h => exact .inr (.inr (lingers_concat h op))
    | kept hop ps' hps' =>
      rcases ih ps' hps' with h | h | h
      · exact .inl (h.concat hop)
      · exact .inr (.inr (lingers_concat h op))
      · exact .inr (.inr (h.concat hop))

/-- A port with a state is that of the new listener, or its service is kept. -/
theorem kept_of_listed {s' : ServiceRef} {p' : Port}
    (h : (ix.subscribeEndpoints s' p').1.port? (s, p) = some ps) :
    (s', p') = (s, p) ∨ ∃ state, ix.services[s]? = some state ∧
      state.isKept (ix.watched s) = true := by
  rw [port?_subscribeEndpoints] at h
  split at h
  · next htopic => exact .inl htopic
  · obtain ⟨state, hstate, -⟩ := port?_eq_some.mp h
    rw [getElem?_collect] at hstate
    exact .inr ⟨state, Option.filter_eq_some_iff.mp hstate⟩

/-- After every run that ends with a new subscription, each port that is listed is declared by the
applied service resource or listened to, unless it lingers: it was listened to, and no operation
since was on a resource of its service. Each service of which ports are listed has an applied
resource or a port that is listened to. -/
theorem listed_after_subscribe (c : ClusterInfo) (ops : List Operation) (s : ServiceRef)
    (p : Port) :
    let ops' := ops ++ [.subscribeEndpoints s p]
    let ix := (start c).run ops'
    ∀ snap ∈ ix.snapshots,
      (Declares ops' snap.service snap.port ∨ ix.watched snap.service snap.port = true ∨
        Lingers c ops' snap.service snap.port) ∧
      ((appliedService ops' snap.service).isSome = true ∨
        (appliedEndpoints ops' snap.service).isSome = true ∨
        ∃ p', ix.watched snap.service p' = true) := by
  intro ops' ix snap hsnap
  obtain ⟨s', p', ps, hps, rfl⟩ := mem_snapshots.mp hsnap
  refine ⟨needed_or_lingers c ops' ps hps, ?_⟩
  change (appliedService ops' s').isSome = true ∨ (appliedEndpoints ops' s').isSome = true ∨
    ∃ p'', ix.watched s' p'' = true
  have hix : ix = (((start c).run ops).subscribeEndpoints s p).1 := run_concat _ _ _
  rw [hix] at hps ⊢
  simp only [watched_subscribeEndpoints]
  rcases kept_of_listed hps with htopic | ⟨state, hstate, hkept⟩
  · exact .inr (.inr ⟨p', by rw [decide_eq_true htopic, Bool.or_true]⟩)
  · have htracks := tracks_applied c ops s'
    rw [service_of_getElem? hstate] at htracks
    have hsvc : appliedService ops' s' = appliedService ops s' := applied_concat ..
    have heps : appliedEndpoints ops' s' = appliedEndpoints ops s' := applied_concat ..
    rw [ServiceState.isKept, htracks.declared, htracks.backends, Option.isSome_map,
      Option.isSome_map, ← hsvc, ← heps, Bool.or_eq_true, Bool.or_eq_true, List.any_eq_true]
      at hkept
    rcases hkept with (hkept | hkept) | ⟨p'', -, hwatched⟩
    · exact .inl hkept
    · exact .inr (.inl hkept)
    · exact .inr (.inr ⟨p'', by rw [hwatched, Bool.true_or]⟩)

end Index

namespace Sample

/-- The service `ns/other`. -/
def other : ServiceRef := ⟨"ns", "other"⟩

/-- A port that the service resource does not declare. -/
def undeclared : Port := ⟨81, by decide⟩

/-- The only listener to the port goes away. -/
def abandonment : List Index.Operation :=
  [.apply (.service service), .subscribeEndpoints web undeclared, .onEndpoints 0 .unsubscribe]

end Sample

namespace Index

/-- The port lingers, and its service has a resource. -/
theorem listed_after_subscribe_other :
    let ops := Sample.abandonment ++ [.subscribeEndpoints Sample.other .http]
    let snap : PortSnapshot :=
      ⟨Sample.web, Sample.undeclared, .number Sample.undeclared, [], none, true⟩
    snap ∈ ((start {}).run ops).snapshots ∧
      (Declares ops Sample.web Sample.undeclared ∨
        ((start {}).run ops).watched Sample.web Sample.undeclared = true ∨
        Lingers {} ops Sample.web Sample.undeclared) ∧
      ((appliedService ops Sample.web).isSome = true ∨
        (appliedEndpoints ops Sample.web).isSome = true ∨
        ∃ p, ((start {}).run ops).watched Sample.web p = true) := by
  intro ops snap
  have hsnap : snap ∈ ((start {}).run ops).snapshots := by decide +kernel
  exact ⟨hsnap, listed_after_subscribe {} Sample.abandonment Sample.other .http snap hsnap⟩

/-- After a new subscription, a port is listed that the applied service resource does not declare
and that nobody listens to. -/
theorem abandoned_port_listed :
    let ops := Sample.abandonment ++ [.subscribeEndpoints Sample.other .http]
    (∃ snap ∈ ((start {}).run ops).snapshots,
      snap.service = Sample.web ∧ snap.port = Sample.undeclared) ∧
    ¬Declares ops Sample.web Sample.undeclared ∧
    ((start {}).run ops).watched Sample.web Sample.undeclared = false := by
  intro ops
  refine ⟨?_, ?_, by decide +kernel⟩
  · refine ⟨⟨Sample.web, Sample.undeclared, .number Sample.undeclared, [], none, true⟩, ?_, rfl, rfl⟩
    decide +kernel
  · rintro ⟨o, ho, hdeclared⟩
    cases ho
    revert hdeclared
    decide +kernel

end Index

end MeshDestination
