import Mathlib.Data.List.Induction
import MeshDestination.Proofs.Index.Abandonment
import MeshDestination.Proofs.Index.Retention

/-!
# Target ports in reports

The target of a service port is recorded when the state of the port is computed. Operations on
resources compute it anew (`Index.Operation.Recomputes`), all but one: the deletion of the service
resource clears the states of the ports that are listened to and leaves their targets as they are.
Such a port reports the target that the deleted resource declared until it is computed anew or
dropped (`Index.Outlives`). Every other report has the target of the applied service resource, or
the port itself (`Index.targetPort_snapshot`).
-/

namespace MeshDestination

open Net Cluster Std

namespace Index

/-- An operation has a service port computed anew: it is on a resource of the service, other than a
deletion of the service resource, or on a pod of the namespace that has or had a listed address, or
it subscribes to the port, which has no state. -/
def Operation.Recomputes (ix : Index) (s : ServiceRef) (p : Port) : Operation → Prop
  | .apply (.service o) => (Resource.service o).key? = some ⟨s.ns, s.name⟩
  | .apply (.endpoints o) => (Resource.endpoints o).key? = some ⟨s.ns, s.name⟩
  | .apply (.pod o) => ∃ name b, (Resource.pod o).key? = some ⟨s.ns, name⟩ ∧
    (ix.service s).backends = some b ∧
    b.mentions (ix.pods.affectedIps s.ns name (PodState.ofObject o)) = true
  | .delete .endpoints ns name => s = ⟨ns, name⟩
  | .delete .pod ns name => s.ns = ns ∧ ∃ b, (ix.service s).backends = some b ∧
    b.mentions ((ix.pods.pod? ns name).bind (·.ip)).toList = true
  | .subscribeEndpoints s' p' => (s', p') = (s, p) ∧ ix.collect.port? (s, p) = none
  | _ => False

/-- Where the target of a port with a state comes from after a step: the port is computed anew, or
its target stays. -/
inductive Retargets (before after : Index) (recomputed : Prop) (s : ServiceRef) (p : Port)
    (t : TargetPort) : Prop
  | computed (h : recomputed) (ht : t = (after.service s).targetPort p)
  | stays (h : ¬recomputed) (ps : PortState) (hps : before.port? (s, p) = some ps)
    (ht : t = ps.targetPort)

variable {before after ix : Index} {recomputed : Prop} {s : ServiceRef} {p : Port} {ps : PortState}

theorem retargets_of_refresh {state : ServiceState} {ns : String} {pods : Pods}
    {watched : Port → Bool} (hs : after.service s = state.refresh ns pods watched)
    (hr : recomputed) (h : after.port? (s, p) = some ps) :
    Retargets before after recomputed s p ps.targetPort := by
  refine .computed hr ?_
  rw [← getElem?_ports_service after (s, p), hs] at h
  obtain ⟨n, rfl⟩ := ServiceState.portState_of_refresh h
  rw [hs]
  rfl

theorem retargets_of_same (hs : after.service s = before.service s) (hr : ¬recomputed)
    (h : after.port? (s, p) = some ps) : Retargets before after recomputed s p ps.targetPort :=
  .stays hr ps ((port?_congr hs p).symm.trans h) rfl

theorem Retargets.collect (ho : ∀ ps, after.port? (s, p) = some ps →
      Retargets before after recomputed s p ps.targetPort)
    (h : after.collect.port? (s, p) = some ps) :
    Retargets before after.collect recomputed s p ps.targetPort := by
  have hs := service_collect_of_port? h
  cases ho ps ((port?_congr hs p).symm.trans h) with
  | computed hr ht => exact .computed hr (hs ▸ ht)
  | stays hr ps' hps' ht => exact .stays hr ps' hps' ht

theorem retargets_refreshService {s' : ServiceRef} {state : ServiceState}
    (hr : recomputed ↔ s' = s) (h : (ix.refreshService s' state).port? (s, p) = some ps) :
    Retargets ix (ix.refreshService s' state) recomputed s p ps.targetPort := by
  have hservice := service_refreshService ix s s' state
  by_cases hs : s' = s
  · exact retargets_of_refresh (hservice.trans (if_pos hs)) (hr.mpr hs) h
  · exact retargets_of_same (hservice.trans (if_neg hs)) (mt hr.mp hs) h

theorem retargets_reresolve (pods : Pods) (ns : String) (ips : List Ip)
    (hr : recomputed ↔ s.ns = ns ∧ ∃ b, (ix.service s).backends = some b ∧ b.mentions ips = true)
    (h : (({ ix with pods } : Index).reresolve ns ips).port? (s, p) = some ps) :
    Retargets ix (({ ix with pods } : Index).reresolve ns ips) recomputed s p ps.targetPort := by
  rcases service_reresolve { ix with pods } s ns ips with ⟨b, hb, hns, hips, hs⟩ | ⟨hno, hs⟩
  · exact retargets_of_refresh hs (hr.mpr ⟨hns, b, hb, hips⟩) h
  · refine retargets_of_same hs (fun hrec => ?_) h
    obtain ⟨hns, b, hb, hips⟩ := hr.mp hrec
    exact absurd hips (by rw [hno b hb hns]; exact Bool.false_ne_true)

theorem retargets_deleteEndpoints {s' : ServiceRef} (hr : recomputed ↔ s' = s)
    (h : (ix.deleteEndpoints s').port? (s, p) = some ps) :
    Retargets ix (ix.deleteEndpoints s') recomputed s p ps.targetPort := by
  revert h
  unfold deleteEndpoints
  split
  · exact Retargets.collect fun ps hps => retargets_refreshService hr hps
  · next hnone =>
    refine Retargets.collect fun ps hps => .stays (fun hrec => ?_) ps hps rfl
    -- A service that is unknown has no port with a state.
    obtain ⟨state, hstate, -⟩ := port?_eq_some.mp hps
    rw [← hr.mp hrec, hnone] at hstate
    cases hstate

theorem retargets_subscribeEndpoints {s' : ServiceRef} {p' : Port}
    (h : (ix.subscribeEndpoints s' p').1.port? (s, p) = some ps) :
    Retargets ix (ix.subscribeEndpoints s' p').1
      ((s', p') = (s, p) ∧ ix.collect.port? (s, p) = none) s p ps.targetPort := by
  rw [port?_subscribeEndpoints] at h
  split at h
  · next htopic =>
    cases htopic
    cases h
    change Retargets ix _ _ s p (ix.collect.current (s, p)).targetPort
    cases hps : ix.collect.port? (s, p) with
    | none =>
      refine .computed ⟨rfl, rfl⟩ ?_
      rw [current, ServiceState.port, TreeMap.getD_eq_getD_getElem?,
        getElem?_ports_service ix.collect (s, p), hps]
      change (ix.collect.service s).targetPort p =
        ((ix.collect.setService s _).service s).targetPort p
      rw [service_setService, if_pos rfl]
      rfl
    | some ps =>
      rw [current_of_port? hps]
      exact .stays (fun hnew => by cases hnew.2) ps (port?_of_collect hps) rfl
  · next htopic => exact .stays (fun hnew => htopic hnew.1) ps (port?_of_collect h) rfl

theorem retargets_apply {r : Resource} (h : (ix.apply r).1.port? (s, p) = some ps) :
    Retargets ix (ix.apply r).1 (Operation.Recomputes ix s p (.apply r)) s p ps.targetPort := by
  cases hname : r.meta_.name with
  | some name =>
    have hkey : r.key? = some ⟨s.ns, s.name⟩ ↔
        (⟨r.meta_.namespaceName, name⟩ : ServiceRef) = s := by
      cases s
      simp [Resource.key?, hname]
    have hpod (name' : String) : r.key? = some ⟨s.ns, name'⟩ ↔
        s.ns = r.meta_.namespaceName ∧ name' = name := by
      simp [Resource.key?, hname, eq_comm]
    simp only [apply, hname] at h ⊢
    cases r with
    | service o => exact retargets_refreshService hkey h
    | endpoints o => exact retargets_refreshService hkey h
    | pod o =>
      refine retargets_reresolve _ _ _ ?_ h
      simp only [Operation.Recomputes, hpod]
      grind
    | replicaSet o => exact .stays not_false ps h rfl
    | serviceProfile o =>
      simp only [applyNamed] at h ⊢
      cases hspec : Profile.ofSpec o.spec with
      | error e =>
        rw [hspec] at h
        exact .stays not_false ps h rfl
      | ok profile =>
        rw [hspec] at h
        exact .stays not_false ps h rfl
  | none =>
    have hkey (key : ObjectKey) : ¬r.key? = some key := by simp [Resource.key?, hname]
    simp only [apply, hname] at h ⊢
    cases r with
    | service | endpoints => exact .stays (hkey _) ps h rfl
    | pod =>
      refine .stays ?_ ps h rfl
      rintro ⟨name, _, hpod, _⟩
      exact hkey _ hpod
    | replicaSet | serviceProfile => exact .stays not_false ps h rfl

theorem retargets_delete {kind : Kind} {ns name : String}
    (h : (ix.delete kind ns name).port? (s, p) = some ps) :
    Retargets ix (ix.delete kind ns name) (Operation.Recomputes ix s p (.delete kind ns name)) s p
      ps.targetPort := by
  cases kind with
  | service =>
    obtain ⟨old, hold, rfl, -⟩ := port?_deleteService h
    refine .stays not_false old hold ?_
    split <;> rfl
  | endpoints => exact retargets_deleteEndpoints eq_comm h
  | pod => exact retargets_reresolve _ _ _ Iff.rfl h
  | replicaSet => exact .stays not_false ps h rfl
  | serviceProfile =>
    change (ix.deleteProfile _).port? (s, p) = some ps at h
    change Retargets ix (ix.deleteProfile _) _ s p _
    unfold deleteProfile at h ⊢
    split at h
    · next hkept =>
      rw [if_pos hkept]
      exact .stays not_false ps h rfl
    · next hkept =>
      rw [if_neg hkept]
      exact .stays not_false ps h rfl

/-- A port has a state after an operation: it is computed anew, or its target stays. -/
theorem retargets_perform {op : Operation} (h : (ix.perform op).port? (s, p) = some ps) :
    Retargets ix (ix.perform op) (op.Recomputes ix s p) s p ps.targetPort := by
  cases op with
  | apply r => exact retargets_apply h
  | delete kind ns name => exact retargets_delete h
  | subscribeEndpoints s' p' => exact retargets_subscribeEndpoints h
  | subscribeProfile | onEndpoints | onProfile => exact .stays not_false ps h rfl

/-! ## Runs -/

/-- A service port has a state that is older than the deletion of a service resource: the port was
listened to then, and since then it was neither dropped nor computed anew. -/
inductive Outlives (c : ClusterInfo) (s : ServiceRef) (p : Port) (o : ServiceObject) :
    List Operation → Prop
  | deleted {ops : List Operation} (ho : appliedService ops s = some o)
    (hw : ((start c).run (ops ++ [.delete .service s.ns s.name])).watched s p = true) :
    Outlives c s p o (ops ++ [.delete .service s.ns s.name])
  | left {ops : List Operation} {op : Operation} (h : Outlives c s p o ops)
    (hop : ¬op.Recomputes ((start c).run ops) s p)
    (hkept : (((start c).run (ops ++ [op])).port? (s, p)).isSome = true) :
    Outlives c s p o (ops ++ [op])

variable {c : ClusterInfo} {ops : List Operation} {o : ServiceObject}

theorem isSome_port?_of_watched (h : ((start c).run ops).watched s p = true) :
    (((start c).run ops).port? (s, p)).isSome = true := by
  obtain ⟨sub, hsub, hreg, htopic⟩ := Subscriptions.mem_of_watches h
  obtain ⟨ps, hps, -⟩ := (anchored_run c ops).ports.kept sub hsub hreg
  rw [htopic] at hps
  exact Option.isSome_iff_exists.mpr ⟨ps, hps⟩

theorem Outlives.isSome_port? (h : Outlives c s p o ops) :
    (((start c).run ops).port? (s, p)).isSome = true := by
  cases h with
  | deleted ho hw => exact isSome_port?_of_watched hw
  | left h hop hkept => exact hkept

/-- The last operation deletes the resource, or leaves a state alone that is older already. -/
theorem Outlives.of_concat {op : Operation} (h : Outlives c s p o (ops ++ [op])) :
    op = .delete .service s.ns s.name ∧ appliedService ops s = some o ∨
      Outlives c s p o ops ∧ ¬op.Recomputes ((start c).run ops) s p := by
  generalize hops : ops ++ [op] = ops' at h
  cases h with
  | deleted ho hw =>
    obtain ⟨rfl, hop⟩ := List.append_inj' hops rfl
    exact .inl ⟨List.singleton_inj.mp hop, ho⟩
  | left h hop hkept =>
    obtain ⟨rfl, hlast⟩ := List.append_inj' hops rfl
    cases hlast
    exact .inr ⟨h, hop⟩

/-- What is declared for a port is declared while the port is not computed anew and the resource is
not deleted. -/
theorem record_service_of_not_recomputes {op : Operation} (hop : ¬op.Recomputes ix s p)
    (hdelete : op ≠ .delete .service s.ns s.name) (svc : Option ServiceObject) :
    record Resource.service? .service ⟨s.ns, s.name⟩ svc op = svc := by
  cases op with
  | apply r =>
    cases r with
    | service o => exact if_neg hop
    | endpoints | pod | replicaSet | serviceProfile => exact ite_self _
  | delete kind ns name =>
    rw [record_delete]
    refine if_neg ?_
    rintro ⟨rfl, rfl⟩
    exact hdelete rfl
  | subscribeEndpoints | subscribeProfile | onEndpoints | onProfile => rfl

/-- A target is the one that the applied service resource has for a port, or that of the deleted
resource that a state outlives, or the port itself. -/
structure Accounts (c : ClusterInfo) (ops : List Operation) (s : ServiceRef) (p : Port)
    (t : TargetPort) : Prop where
  applied : ∀ o, appliedService ops s = some o → t = o.targetPort p
  outlived : ∀ o, Outlives c s p o ops → t = o.targetPort p
  absent : appliedService ops s = none → (∀ o, ¬Outlives c s p o ops) → t = .number p

/-- The target that the present resources have is accounted for where no state is older. -/
theorem accounts_targetPort (c : ClusterInfo) (h : ∀ o, ¬Outlives c s p o ops) :
    Accounts c ops s p ((((start c).run ops).service s).targetPort p) where
  applied o ho := by
    have htracks := tracks_applied c ops s
    rw [ho] at htracks
    exact htracks.targetPort p
  outlived o hold := absurd hold (h o)
  absent hnone _ := by
    have hd := (tracks_applied c ops s).declared
    rw [hnone] at hd
    rw [ServiceState.targetPort, hd]
    rfl

/-- A target that stays when an operation is performed is still accounted for. -/
theorem Accounts.concat {t : TargetPort} (h : Accounts c ops s p t) {op : Operation}
    (hop : ¬op.Recomputes ((start c).run ops) s p)
    (hps : ((start c).run (ops ++ [op])).port? (s, p) = some ps) :
    Accounts c (ops ++ [op]) s p t := by
  have hleft {o : ServiceObject} (hold : Outlives c s p o ops) : Outlives c s p o (ops ++ [op]) :=
    hold.left hop (Option.isSome_iff_exists.mpr ⟨ps, hps⟩)
  have houtlived (o : ServiceObject) (hold : Outlives c s p o (ops ++ [op])) :
      t = o.targetPort p := by
    rcases hold.of_concat with ⟨-, ho⟩ | ⟨hold, -⟩
    · exact h.applied o ho
    · exact h.outlived o hold
  by_cases hdelete : op = .delete .service s.ns s.name
  · subst hdelete
    have hnone : appliedService (ops ++ [.delete .service s.ns s.name]) s = none := by
      rw [appliedService, applied_concat, record_delete, if_pos ⟨rfl, rfl⟩]
    refine ⟨fun o ho => ?_, houtlived, fun _ hno => h.absent ?_ fun o hold => hno o (hleft hold)⟩
    · rw [hnone] at ho
      cases ho
    · -- The state of a port that was declared until now would be an older one from now on.
      cases ho : appliedService ops s with
      | none => rfl
      | some o =>
        refine absurd (Outlives.deleted ho ?_) (hno o)
        rw [run_concat] at hps ⊢
        obtain ⟨-, -, -, hwatched⟩ := port?_deleteService hps
        exact hwatched rfl
  · have hsame : appliedService (ops ++ [op]) s = appliedService ops s := by
      rw [appliedService, applied_concat, record_service_of_not_recomputes hop hdelete]
      rfl
    refine ⟨fun o ho => h.applied o (hsame ▸ ho), houtlived, fun hnone hno => ?_⟩
    exact h.absent (hsame ▸ hnone) fun o hold => hno o (hleft hold)

theorem accounts_run (c : ClusterInfo) (ops : List Operation) :
    ∀ ps, ((start c).run ops).port? (s, p) = some ps → Accounts c ops s p ps.targetPort := by
  induction ops using List.reverseRecOn with
  | nil =>
    intro ps hps
    rw [port?, show ((start c).run []).services[s]? = none from TreeMap.getElem?_emptyc] at hps
    cases hps
  | append_singleton ops op ih =>
    intro ps hps
    have hperform := hps
    rw [run_concat] at hperform
    cases retargets_perform hperform with
    | computed hop ht =>
      rw [ht, ← run_concat]
      refine accounts_targetPort c fun o hold => ?_
      rcases hold.of_concat with ⟨rfl, -⟩ | ⟨-, hno⟩
      · exact hop
      · exact hno hop
    | stays hop before hbefore ht =>
      rw [ht]
      exact (ih before hbefore).concat hop hps

/-- In every report the target of a port is the one that the applied service resource has for it. If
none is applied, it is the port itself, unless the state of the port outlives a deleted service
resource: then it is the target that this resource had. -/
theorem targetPort_snapshot (c : ClusterInfo) (ops : List Operation) (s : ServiceRef) (p : Port) :
    let t := (((start c).run ops).snapshot s p).targetPort
    (∀ o, appliedService ops s = some o → t = o.targetPort p) ∧
    (∀ o, Outlives c s p o ops → t = o.targetPort p) ∧
    (appliedService ops s = none → (∀ o, ¬Outlives c s p o ops) → t = .number p) := by
  intro t
  have haccounts : Accounts c ops s p t := by
    cases hps : ((start c).run ops).port? (s, p) with
    | some ps =>
      have ht : t = ps.targetPort := congrArg PortState.targetPort (current_of_port? hps)
      rw [ht]
      exact accounts_run c ops ps hps
    | none =>
      have ht : t = (((start c).run ops).service s).targetPort p := by
        change (ServiceState.port _ _ _ _).targetPort = _
        rw [ServiceState.port, TreeMap.getD_eq_getD_getElem?,
          getElem?_ports_service _ (s, p), hps]
        rfl
      rw [ht]
      refine accounts_targetPort c fun o hold => ?_
      have hsome := hold.isSome_port?
      rw [hps] at hsome
      cases hsome
  exact ⟨haccounts.applied, haccounts.outlived, haccounts.absent⟩

end Index

namespace Sample

/-- A service resource that sends port 80 to another port. -/
def redirected : ServiceObject := { service with ports := [⟨80, some (.int 8080)⟩] }

/-- Port 8080. -/
def alternate : Port := ⟨8080, by decide⟩

/-- A service resource is applied, its port is listened to, and the resource is deleted. -/
def orphaning : List Index.Operation :=
  [.apply (.service redirected), .subscribeEndpoints web .http, .delete .service "ns" "web"]

end Sample

namespace Index

/-- The state of a port that is listened to outlives its service resource. Endpoints that are
applied afterwards have it computed anew. -/
theorem targetPort_snapshot_orphaned :
    Outlives {} Sample.web .http Sample.redirected Sample.orphaning ∧
    (((start {}).run Sample.orphaning).snapshot Sample.web .http).targetPort =
      Sample.redirected.targetPort .http ∧
    let ops := Sample.orphaning ++ [.apply (.endpoints Sample.endpoints)]
    (((start {}).run ops).snapshot Sample.web .http).targetPort = .number .http := by
  have hold : Outlives {} Sample.web .http Sample.redirected Sample.orphaning := by
    have hdeleted := @Outlives.deleted {} Sample.web .http Sample.redirected
      Sample.orphaning.dropLast
    exact hdeleted rfl (by decide +kernel)
  refine ⟨hold, (targetPort_snapshot {} _ _ _).2.1 _ hold, ?_⟩
  refine (targetPort_snapshot {} _ _ _).2.2 rfl fun o hstill => ?_
  rcases hstill.of_concat with ⟨hop, -⟩ | ⟨-, hop⟩
  · cases hop
  · exact hop rfl

/-- No service resource is applied any more, but the report has the target that the deleted one
declared. -/
theorem target_outlives_service :
    appliedService Sample.orphaning Sample.web = none ∧
    (((start {}).run Sample.orphaning).snapshot Sample.web .http).targetPort =
      .number Sample.alternate := by
  refine ⟨rfl, ?_⟩
  decide +kernel

end Index

end MeshDestination
