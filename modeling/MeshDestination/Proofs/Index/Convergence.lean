import Mathlib.Data.List.Chain
import MeshDestination.Proofs.Index.Profiles
import MeshDestination.Proofs.Profile.Equality

/-!
# Listeners learn the effective profile

The last event of a registered subscription to a profile is the profile that governs the service as
the applied resources have it, and no event repeats the one before
(`last_log_beq_effectiveProfile`). States of services that are kept while listeners come and go, and
the filter that selects the services to look up again, make no difference: the invariant is
`Index.Settled`.
-/

namespace MeshDestination

open Cluster Std

/-- A profile of the service `ns/web` with one route, in some namespace. -/
def Sample.profile (ns route : String) : ServiceProfileObject :=
  ⟨{ name := some "web.ns.svc.cluster.local", ns := some ns },
    { routes := [{ name := route, condition := { method := some "get" } }]
      retryBudget := some ⟨.finite false 1 (-2), 10, "10s"⟩ }⟩

namespace Index

/-! ## The effective profile -/

/-- The profile that the resource of a key states, if one is applied and not deleted since. -/
def appliedProfile (ops : List Operation) (key : ObjectKey) : Option Profile :=
  applied Resource.profile? .serviceProfile key ops

/-- The profile that governs a service: the one named after it in its own namespace, else the one
of that name in the control plane's. -/
def effectiveProfile (c : ClusterInfo) (ops : List Operation) (s : ServiceRef) : Option Profile :=
  let name := s.name ++ "." ++ s.ns ++ ".svc." ++ c.dnsDomain
  (appliedProfile ops ⟨s.ns, name⟩).or (appliedProfile ops ⟨c.controlPlaneNs, name⟩)

theorem resources_perform (ix : Index) (op : Operation) (key : ObjectKey) :
    (ix.perform op).profiles.resources[key]? =
      recordProfile key ix.profiles.resources[key]? op := by
  cases profileStep_perform ix op with
  | set _ resources recorded _ eq =>
    rw [eq]
    exact recorded key
  | subscribed s eq =>
    rw [eq]
    rfl
  | acted ticket a eq =>
    rw [eq]
    rfl
  | spared recorded _ profiles _ => rw [profiles, recorded key _ rfl]

theorem resources_run (key : ObjectKey) (ops : List Operation) :
    ∀ ix : Index, (ix.run ops).profiles.resources[key]? =
      ops.foldl (recordProfile key) ix.profiles.resources[key]? := by
  induction ops with
  | nil => exact fun _ => rfl
  | cons op ops ih =>
    intro ix
    rw [List.foldl_cons, ← resources_perform]
    exact ih (ix.perform op)

theorem cluster_perform (ix : Index) (op : Operation) : (ix.perform op).cluster = ix.cluster := by
  cases profileStep_perform ix op with
  | set _ _ _ _ eq =>
    rw [eq]
    rfl
  | subscribed s eq =>
    rw [eq]
    rfl
  | acted ticket a eq =>
    rw [eq]
    rfl
  | spared _ cluster _ _ => exact cluster

theorem cluster_run (c : ClusterInfo) (ops : List Operation) : ((start c).run ops).cluster = c :=
  run_invariant (P := fun ix => ix.cluster = c) (fun ix op h => (cluster_perform ix op).trans h) ops
    rfl

/-- The profiles that are known are those of the applied resources. -/
theorem resources_applied (c : ClusterInfo) (ops : List Operation) (key : ObjectKey) :
    ((start c).run ops).profiles.resources[key]? = appliedProfile ops key := by
  rw [resources_run]
  exact congrArg (List.foldl _ · ops) TreeMap.getElem?_emptyc

/-- What the index looks up is the effective profile. -/
theorem effective_run (c : ClusterInfo) (ops : List Operation) (s : ServiceRef) :
    ((start c).run ops).profiles.effective c s = effectiveProfile c ops s := by
  rw [Profiles.effective, resources_applied, resources_applied]
  rfl

/-! ## Kept states -/

/-- Every profile equals itself, and the kept state of every service is the profile that governs
it. -/
structure Settled (ix : Index) : Prop where
  regular : ∀ {key : ObjectKey} {p : Profile}, ix.profiles.resources[key]? = some p → p.beq p = true
  current : ∀ {s : ServiceRef} {state : ProfileState}, ix.profiles.services[s]? = some state →
    beqOption Profile.beq state.current (ix.profiles.effective ix.cluster s) = true

/-- The retry ratio of an applied profile is a number. -/
def Operation.Proper (op : Operation) : Prop :=
  ∀ o, op = .apply (.serviceProfile o) →
    ∀ b, o.spec.retryBudget = some b → b.retryRatio.isNaN = false

theorem beq_self_of_recordProfile {key : ObjectKey} {current : Option Profile} {op : Operation}
    (hop : op.Proper) (h : ∀ p, current = some p → p.beq p = true) {p : Profile}
    (hp : recordProfile key current op = some p) : p.beq p = true := by
  cases op with
  | apply r =>
    rw [recordProfile, record] at hp
    split at hp
    · rcases Option.or_eq_some_iff.mp hp with hr | ⟨-, hcurrent⟩
      · cases r with
        | serviceProfile o =>
          rw [Resource.profile?] at hr
          cases hspec : Profile.ofSpec o.spec with
          | error e =>
            rw [hspec] at hr
            cases hr
          | ok p' =>
            rw [hspec] at hr
            cases hr
            exact Profile.beq_self_of_ofSpec hspec (hop o rfl)
        | service | endpoints | pod | replicaSet => cases hr
      · exact h p hcurrent
    · exact h p hp
  | delete kind ns name =>
    rw [recordProfile, record] at hp
    split at hp
    · cases hp
    · exact h p hp
  | subscribeEndpoints | subscribeProfile | onEndpoints | onProfile => exact h p hp

/-- If every profile equals itself, so does the one that governs a service. -/
theorem beq_effective {p : Profiles}
    (h : ∀ {key : ObjectKey} {q : Profile}, p.resources[key]? = some q → q.beq q = true)
    (c : ClusterInfo) (s : ServiceRef) :
    beqOption Profile.beq (p.effective c s) (p.effective c s) = true := by
  cases heffective : p.effective c s with
  | none => rfl
  | some q =>
    rw [Profiles.effective] at heffective
    rcases Option.or_eq_some_iff.mp heffective with hown | ⟨-, hshared⟩
    · exact h hown
    · exact h hshared

/-- A resource that may not govern a service makes no difference to it. -/
theorem effective_replace_of_not_mayGovern {p : Profiles}
    {resources : TreeMap ObjectKey Profile} {c : ClusterInfo} {key : ObjectKey} {s : ServiceRef}
    (hkey : ¬Profiles.mayGovern c key s = true)
    (hothers : ∀ k, k ≠ key → resources[k]? = p.resources[k]?) :
    (p.replace c key resources).effective c s = p.effective c s := by
  have hresources : ∀ ns, ns = s.ns ∨ ns = c.controlPlaneNs →
      (p.replace c key resources).resources[(⟨ns, c.profileName s⟩ : ObjectKey)]? =
        p.resources[(⟨ns, c.profileName s⟩ : ObjectKey)]? := by
    intro ns hns
    refine hothers _ fun heq => hkey ?_
    subst heq
    rcases hns with rfl | rfl <;> simp [Profiles.mayGovern]
  rw [Profiles.effective, Profiles.effective, hresources _ (.inl rfl), hresources _ (.inr rfl)]

theorem Settled.set {ix : Index} (h : ix.Settled) {key : ObjectKey}
    {resources : TreeMap ObjectKey Profile}
    (hothers : ∀ k, k ≠ key → resources[k]? = ix.profiles.resources[k]?)
    (hregular : ∀ {k : ObjectKey} {p : Profile}, resources[k]? = some p → p.beq p = true) :
    (ix.setProfiles key (ix.profiles.replace ix.cluster key resources)).Settled where
  regular := hregular
  current {s state} hs := by
    change (ix.profiles.replace ix.cluster key resources).services[s]? = some state at hs
    change beqOption Profile.beq _
      ((ix.profiles.replace ix.cluster key resources).effective ix.cluster s) = true
    rw [Profiles.getElem?_services_replace] at hs
    obtain ⟨old, hold, rfl⟩ := Option.map_eq_some_iff.mp hs
    unfold Profiles.relookup
    split
    · exact beq_effective hregular ix.cluster s
    · next hsame =>
      -- Either it was looked up again and is the same, or nothing that governs it has changed.
      by_cases hgovern : Profiles.mayGovern ix.cluster key s = true
      · simpa [hgovern] using hsame
      · rw [effective_replace_of_not_mayGovern hgovern hothers]
        exact h.current hold

theorem Settled.subscribeProfile {ix : Index} (h : ix.Settled) (s : ServiceRef) :
    (ix.subscribeProfile s).1.Settled where
  regular := h.regular
  current {s' state} hs := by
    have hcollected : ∀ {state}, (ix.profiles.collect ix.profileSubs.watches).services[s']? =
        some state → beqOption Profile.beq state.current
          (ix.profiles.effective ix.cluster s') = true := by
      intro state hs
      rw [Profiles.collect, TreeMap.getElem?_filter'] at hs
      exact h.current (Option.eq_some_of_filter_eq_some hs)
    rw [getElem?_services_subscribeProfile] at hs
    change beqOption Profile.beq state.current (ix.profiles.effective ix.cluster s') = true
    split at hs
    · next heq =>
      subst heq
      cases hs
      change beqOption Profile.beq (ix.profileOpening s).current _ = true
      rw [profileOpening, Profiles.state, TreeMap.getD_eq_getD_getElem?]
      cases hkept : (ix.profiles.collect ix.profileSubs.watches).services[s]? with
      | none => exact beq_effective h.regular ix.cluster s
      | some kept => exact hcollected hkept
    · exact hcollected hs

theorem Settled.perform {ix : Index} (h : ix.Settled) {op : Operation} (hop : op.Proper) :
    (ix.perform op).Settled := by
  have hregular : ∀ {k : ObjectKey} {p : Profile},
      (ix.perform op).profiles.resources[k]? = some p → p.beq p = true := by
    intro k p hp
    rw [resources_perform] at hp
    exact beq_self_of_recordProfile hop (fun _ => h.regular) hp
  cases profileStep_perform ix op with
  | set key resources _ others eq =>
    rw [eq] at hregular ⊢
    exact h.set others hregular
  | subscribed s eq =>
    rw [eq]
    exact h.subscribeProfile s
  | acted ticket a eq =>
    rw [eq]
    exact ⟨h.regular, h.current⟩
  | spared _ cluster profiles _ =>
    refine ⟨hregular, fun {s state} hs => ?_⟩
    rw [cluster, profiles]
    rw [profiles] at hs
    exact h.current hs

theorem settled_run (c : ClusterInfo) (ops : List Operation) (hops : ∀ op ∈ ops, op.Proper) :
    ((start c).run ops).Settled := by
  refine run_invariant_of (fun ix op hop h => h.perform hop) ops hops ⟨?_, ?_⟩
  · intro key p hp
    rw [show (start c).profiles.resources[key]? = none from TreeMap.getElem?_emptyc] at hp
    cases hp
  · intro s state hs
    rw [show (start c).profiles.services[s]? = none from TreeMap.getElem?_emptyc] at hs
    cases hs

/-! ## Logs -/

/-- What the log of a listener says of the state of its service. -/
structure Converged (log : List (Option Profile)) (state : ProfileState) : Prop where
  last : log.getLast? = some state.current
  distinct : log.IsChain fun a b => beqOption Profile.beq a b = false

theorem invariant_converged : TopicState.Invariant Converged where
  initial state := ⟨rfl, List.isChain_singleton _⟩
  tells {old new events log} htells h := by
    rcases htells with ⟨rfl, hcurrent⟩ | ⟨rfl, hchanged⟩
    · rw [List.append_nil]
      exact ⟨by rw [h.last, hcurrent], h.distinct⟩
    · refine ⟨List.getLast?_concat, h.distinct.append (List.isChain_singleton _) ?_⟩
      intro a ha b hb
      rw [h.last, Option.mem_some_iff] at ha
      rw [List.head?_cons, Option.mem_some_iff] at hb
      rw [← ha, ← hb]
      exact hchanged

/-- Every subscription to a profile has converged, or its log is the start of one that has. -/
structure Followed (ix : Index) : Prop where
  upholds : ix.profileTopics.Upholds Converged
  begins : ix.profileTopics.Begins Converged

theorem followed_run (c : ClusterInfo) (ops : List Operation) : ((start c).run ops).Followed := by
  refine run_invariant (fun ix op h => ?_) ops ⟨?_, ?_⟩
  · have hs := step_profileTopics ix op
    exact ⟨h.upholds.step invariant_converged hs,
      h.begins.step invariant_converged h.upholds hs⟩
  · exact fun sub hsub => absurd hsub List.not_mem_nil
  · exact fun sub hsub => absurd hsub List.not_mem_nil

/-- After every run in which retry ratios are numbers, the last event of a registered subscription
to a profile equals the profile that governs the service as the applied resources have it. No event
of any subscription equals the one before. Events are compared as the index compares profiles. -/
theorem last_log_beq_effectiveProfile (c : ClusterInfo) (ops : List Operation)
    (hops : ∀ op ∈ ops, op.Proper) (sub : Subscription ServiceRef (Option Profile))
    (hsub : sub ∈ ((start c).run ops).profileSubs.entries) :
    (sub.isRegistered = true → ∃ last, sub.log.getLast? = some last ∧
      beqOption Profile.beq last (effectiveProfile c ops sub.topic) = true) ∧
    sub.log.IsChain fun a b => beqOption Profile.beq a b = false := by
  have hfollowed := followed_run c ops
  refine ⟨fun hreg => ?_, ?_⟩
  · obtain ⟨state, hstate, hconverged⟩ := hfollowed.upholds sub hsub hreg
    have hcurrent := (settled_run c ops hops).current hstate
    rw [cluster_run, effective_run] at hcurrent
    exact ⟨state.current, hconverged.last, hcurrent⟩
  · obtain ⟨later, state, hconverged⟩ := hfollowed.begins sub hsub
    exact hconverged.distinct.left_of_append

/-- A listener that joins under the control plane's profile, and sees the service's own one come,
come again and go. -/
theorem last_log_beq_effectiveProfile_web :
    let ops := [.apply (.serviceProfile (Sample.profile "linkerd" "shared")),
      .subscribeProfile Sample.web, .apply (.serviceProfile (Sample.profile "ns" "own")),
      .apply (.serviceProfile (Sample.profile "ns" "own")),
      .delete .serviceProfile "ns" "web.ns.svc.cluster.local"]
    ∃ sub ∈ ((start {}).run ops).profileSubs.entries, sub.isRegistered = true ∧
      sub.log.map (Option.map fun p => p.routes.map (·.name)) =
        [some ["shared"], some ["own"], some ["shared"]] ∧
      (∃ last, sub.log.getLast? = some last ∧
        beqOption Profile.beq last (effectiveProfile {} ops sub.topic) = true) ∧
      sub.log.IsChain fun a b => beqOption Profile.beq a b = false := by
  intro ops
  have hops : ∀ op ∈ ops, op.Proper := by
    intro op hop o heq b hb
    subst heq
    simp only [ops, List.mem_cons, Operation.apply.injEq, Resource.serviceProfile.injEq,
      reduceCtorEq, List.not_mem_nil, or_false, false_or] at hop
    rcases hop with rfl | rfl | rfl <;> cases hb <;> rfl
  have hentries : ((start {}).run ops).profileSubs.entries.map (fun sub =>
      (sub.isRegistered, sub.log.map (Option.map fun p => p.routes.map (·.name)))) =
      [(true, [some ["shared"], some ["own"], some ["shared"]])] := by decide +kernel
  obtain ⟨sub, hsub, hlog⟩ := List.mem_map.mp (hentries ▸ List.mem_singleton_self _)
  obtain ⟨hreg, hlog⟩ := Prod.mk.inj hlog
  obtain ⟨hlast, hdistinct⟩ := last_log_beq_effectiveProfile {} ops hops sub hsub
  exact ⟨sub, hsub, hreg, hlog, hlast hreg, hdistinct⟩

end Index

end MeshDestination
