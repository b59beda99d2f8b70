import MeshDestination.Proofs.Index.Run
import MeshDestination.Proofs.Topics

/-!
# What operations do to effective profiles

The services whose profile is listened to are topics (`Index.profileTopics`). Recording or
forgetting a profile looks up again every service that it may govern and tells the listeners of
those whose profile is another than before; a new subscription starts with the profile of its
service; no other operation touches profiles (`Index.profileStep_perform`).
-/

namespace MeshDestination

open Cluster Std

instance : TopicState ProfileState (Option Profile) where
  initial state := [state.current]
  Tells old new events :=
    events = [] ∧ new.current = old.current ∨
      events = [new.current] ∧ beqOption Profile.beq old.current new.current = false
  next := ProfileState.nextNumber
  tells_self _ := .inl ⟨rfl, rfl⟩

/-- The resource as the profile that it states, if it is one and states it without fault. -/
def Cluster.Resource.profile? : Resource → Option Profile
  | .serviceProfile o => (Profile.ofSpec o.spec).toOption
  | _ => none

namespace Profiles

/-- Other resources take the place of those of before, and every service that the one of a key may
govern is looked up again. -/
def replace (p : Profiles) (c : ClusterInfo) (key : ObjectKey)
    (resources : TreeMap ObjectKey Profile) : Profiles :=
  ({ p with resources } : Profiles).reindex c key

/-- The state of a service after a lookup has found a profile. -/
def relookup (c : ClusterInfo) (key : ObjectKey) (s : ServiceRef) (found : Option Profile)
    (state : ProfileState) : ProfileState :=
  if mayGovern c key s && !beqOption Profile.beq state.current found then
    { state with current := found }
  else state

theorem getElem?_services_replace (p : Profiles) (c : ClusterInfo) (key : ObjectKey)
    (resources : TreeMap ObjectKey Profile) (s : ServiceRef) :
    (p.replace c key resources).services[s]? =
      p.services[s]?.map (relookup c key s ((p.replace c key resources).effective c s)) := by
  simp only [replace, reindex, TreeMap.getElem?_map]
  rfl

theorem nextNumber_relookup (c : ClusterInfo) (key : ObjectKey) (s : ServiceRef)
    (found : Option Profile) (state : ProfileState) :
    (relookup c key s found state).nextNumber = state.nextNumber := by
  unfold relookup
  split <;> rfl

/-- What is told of a service tells how its state is looked up again. -/
theorem tells_relookup {before : Profiles} (after : Profiles) {c : ClusterInfo}
    {key : ObjectKey} {s : ServiceRef} {state : ProfileState}
    (h : before.services[s]? = some state) :
    TopicState.Tells state (relookup c key s (after.effective c s) state)
      (changes before after c key s) := by
  simp only [changes, h, relookup]
  split
  · next hchanged =>
    rw [Bool.and_eq_true, Bool.not_eq_true'] at hchanged
    exact .inr ⟨rfl, hchanged.2⟩
  · exact .inl ⟨rfl, rfl⟩

theorem state_of_getElem? {p : Profiles} {c : ClusterInfo} {s : ServiceRef} {state : ProfileState}
    (h : p.services[s]? = some state) : p.state c s = state := by
  rw [Profiles.state, TreeMap.getD_eq_getD_getElem?, h]
  rfl

/-- A watched service is not dropped. -/
theorem getElem?_collect_of_watched {p : Profiles} {watched : ServiceRef → Bool} {s : ServiceRef}
    (hw : watched s = true) : (p.collect watched).services[s]? = p.services[s]? := by
  rw [collect, TreeMap.getElem?_filter']
  cases p.services[s]? with
  | none => rfl
  | some state => rw [Option.filter_some, if_pos hw]

end Profiles

namespace Index

/-- The services whose profile is listened to, with the subscriptions to them. -/
def profileTopics (ix : Index) : Topics ServiceRef (Option Profile) ProfileState :=
  ⟨ix.profileSubs, fun s => ix.profiles.services[s]?, ix.profiles.state ix.cluster,
    Profiles.state_of_getElem?⟩

/-! ## Operations as steps -/

/-- The listeners of all services that are looked up again are told what is found. -/
theorem moves_setProfiles (ix : Index) (key : ObjectKey) (resources : TreeMap ObjectKey Profile) :
    Topics.Moves ix.profileTopics
      (ix.setProfiles key (ix.profiles.replace ix.cluster key resources)).profileTopics
      (Profiles.changes ix.profiles (ix.profiles.replace ix.cluster key resources) ix.cluster
        key) := by
  have hkept : ∀ {s state}, ix.profiles.services[s]? = some state →
      (ix.profiles.replace ix.cluster key resources).services[s]? =
        some (Profiles.relookup ix.cluster key s
          ((ix.profiles.replace ix.cluster key resources).effective ix.cluster s) state) := by
    intro s state hs
    rw [Profiles.getElem?_services_replace, hs, Option.map_some]
  refine ⟨rfl, fun {s state} _ hs => ?_, fun {s state} _ _ hs => ⟨_, hkept hs, ?_⟩⟩
  · change TopicState.Tells state
      ((ix.profiles.replace ix.cluster key resources).state ix.cluster s) _
    rw [Profiles.state_of_getElem? (hkept hs)]
    exact Profiles.tells_relookup _ hs
  · exact Profiles.nextNumber_relookup ..

/-- Services that are not listened to are dropped without a word. -/
theorem moves_collectProfiles (ix : Index) :
    Topics.Moves ix.profileTopics
      ({ ix with profiles := ix.profiles.collect ix.profileSubs.watches } : Index).profileTopics
      fun _ => [] :=
  .of_drop rfl fun hw hs => (Profiles.getElem?_collect_of_watched hw).trans hs

/-- The state from which a new subscription to the profile of a service starts. -/
def profileOpening (ix : Index) (s : ServiceRef) : ProfileState :=
  (ix.profiles.collect ix.profileSubs.watches).state ix.cluster s

theorem getElem?_services_subscribeProfile (ix : Index) (s s' : ServiceRef) :
    (ix.subscribeProfile s).1.profiles.services[s']? =
      if s = s' then
        some { ix.profileOpening s with nextNumber := (ix.profileOpening s).nextNumber + 1 }
      else (ix.profiles.collect ix.profileSubs.watches).services[s']? := by
  change (TreeMap.insert _ _ _)[s']? = _
  rw [TreeMap.getElem?_insert]
  simp only [LawfulEqCmp.compare_eq_iff_eq]
  rfl

theorem subscribes_subscribeProfile (ix : Index) (s : ServiceRef) :
    Topics.Subscribes ix.profileTopics (ix.subscribeProfile s).1.profileTopics s
      ix.cluster.queueCapacity (ix.profileOpening s) where
  subs := rfl
  joins hw hold :=
    Profiles.state_of_getElem? ((Profiles.getElem?_collect_of_watched hw).trans hold)
  new := ⟨_, (getElem?_services_subscribeProfile ix s s).trans (if_pos rfl), .inl ⟨rfl, rfl⟩, rfl⟩
  kept hs hw hold :=
    (getElem?_services_subscribeProfile ix s _).trans
      ((if_neg hs).trans ((Profiles.getElem?_collect_of_watched hw).trans hold))

/-! ## Operations -/

/-- The profile that is known under a key after an operation. -/
def recordProfile (key : ObjectKey) (current : Option Profile) (op : Operation) : Option Profile :=
  record Resource.profile? .serviceProfile key current op

/-- What an operation does to profiles, and to the resources that they come from. -/
inductive ProfileStep (ix : Index) (op : Operation) (ix' : Index) : Prop
  /-- The profile of one resource is recorded or forgotten. -/
  | set (key : ObjectKey) (resources : TreeMap ObjectKey Profile)
    (recorded : ∀ k, resources[k]? = recordProfile k ix.profiles.resources[k]? op)
    (others : ∀ k, k ≠ key → resources[k]? = ix.profiles.resources[k]?)
    (eq : ix' = ix.setProfiles key (ix.profiles.replace ix.cluster key resources))
  | subscribed (s : ServiceRef) (eq : op = .subscribeProfile s)
  | acted (ticket : Nat) (a : Subscription.Action) (eq : op = .onProfile ticket a)
  /-- Profiles are not concerned. -/
  | spared (recorded : ∀ k current, current = ix.profiles.resources[k]? →
      recordProfile k current op = current)
    (cluster : ix'.cluster = ix.cluster) (profiles : ix'.profiles = ix.profiles)
    (profileSubs : ix'.profileSubs = ix.profileSubs)

theorem recordProfile_of_none {r : Resource} (h : r.profile? = none) (key : ObjectKey)
    (current : Option Profile) : recordProfile key current (.apply r) = current := by
  rw [recordProfile, record, h, Option.none_or, ite_self]

theorem recordProfile_delete_of_ne {kind : Kind} (h : kind ≠ .serviceProfile) (ns name : String)
    (key : ObjectKey) (current : Option Profile) :
    recordProfile key current (.delete kind ns name) = current := by
  rw [recordProfile, record, if_neg fun hkind => h hkind.1]

theorem profileStep_applyNamed (ix : Index) {r : Resource} {name : String}
    (hname : r.meta_.name = some name) :
    ProfileStep ix (.apply r) (ix.applyNamed r.meta_.namespaceName name r).1 := by
  cases r with
  | serviceProfile o =>
    simp only [applyNamed]
    cases hprofile : Profile.ofSpec o.spec with
    | error e =>
      have hnone : (Resource.serviceProfile o).profile? = none := by
        rw [Resource.profile?, hprofile]
        rfl
      exact .spared (fun k current _ => recordProfile_of_none hnone k current) rfl rfl rfl
    | ok profile =>
      have hsome : (Resource.serviceProfile o).profile? = some profile := by
        rw [Resource.profile?, hprofile]
        rfl
      refine .set ⟨_, name⟩ (ix.profiles.resources.insert ⟨_, name⟩ profile) (fun k => ?_)
        (fun k hk => ?_) rfl
      · rw [TreeMap.getElem?_insert, recordProfile, record, hsome, Resource.key?, hname]
        simp only [LawfulEqCmp.compare_eq_iff_eq, Option.map_some, Option.some.injEq,
          Option.some_or]
      · rw [TreeMap.getElem?_insert, if_neg fun heq => hk (LawfulEqCmp.eq_of_compare heq).symm]
  | service | endpoints | pod | replicaSet =>
    exact .spared (fun k current _ => recordProfile_of_none rfl k current) rfl rfl rfl

theorem profileStep_apply (ix : Index) (r : Resource) :
    ProfileStep ix (.apply r) (ix.apply r).1 := by
  unfold apply
  split
  · next name hname =>
    exact profileStep_applyNamed ix hname
  · next hname =>
    have hrecord : ∀ k current, recordProfile k current (.apply r) = current := by
      intro k current
      rw [recordProfile, record, Resource.key?, hname, if_neg (by simp)]
    cases r <;> exact .spared (fun k current _ => hrecord k current) rfl rfl rfl

theorem profileStep_deleteProfile (ix : Index) (ns name : String) :
    ProfileStep ix (.delete .serviceProfile ns name) (ix.deleteProfile ⟨ns, name⟩) := by
  have hrecord : ∀ k current, recordProfile k current (.delete .serviceProfile ns name) =
      if ⟨ns, name⟩ = k then none else current := by
    intro k current
    simp only [recordProfile, record, true_and, eq_comm]
  unfold deleteProfile
  split
  · refine .set ⟨ns, name⟩ (ix.profiles.resources.erase ⟨ns, name⟩) (fun k => ?_)
      (fun k hk => ?_) rfl
    · rw [TreeMap.getElem?_erase, hrecord]
      simp only [LawfulEqCmp.compare_eq_iff_eq]
    · rw [TreeMap.getElem?_erase, if_neg fun heq => hk (LawfulEqCmp.eq_of_compare heq).symm]
  · next hmissing =>
    refine .spared (fun k current hcurrent => ?_) rfl rfl rfl
    rw [hrecord]
    split
    · next hk =>
      rw [TreeMap.contains_eq_isSome_getElem?, Bool.not_eq_true, Option.isSome_eq_false_iff,
        Option.isNone_iff_eq_none, hk, ← hcurrent] at hmissing
      exact hmissing.symm
    · rfl

theorem profileStep_delete (ix : Index) (kind : Kind) (ns name : String) :
    ProfileStep ix (.delete kind ns name) (ix.delete kind ns name) := by
  have hspared : kind ≠ .serviceProfile → ∀ k current, current = ix.profiles.resources[k]? →
      recordProfile k current (.delete kind ns name) = current :=
    fun hkind k current _ => recordProfile_delete_of_ne hkind ns name k current
  cases kind with
  | serviceProfile => exact profileStep_deleteProfile ix ns name
  | service =>
    change ProfileStep ix _ (ix.deleteService _)
    unfold deleteService
    split <;> exact .spared (hspared (by decide)) rfl rfl rfl
  | endpoints =>
    change ProfileStep ix _ (ix.deleteEndpoints _)
    unfold deleteEndpoints
    split <;> exact .spared (hspared (by decide)) rfl rfl rfl
  | pod | replicaSet => exact .spared (hspared (by decide)) rfl rfl rfl

theorem profileStep_perform (ix : Index) (op : Operation) : ProfileStep ix op (ix.perform op) := by
  cases op with
  | apply r => exact profileStep_apply ix r
  | delete kind ns name => exact profileStep_delete ix kind ns name
  | subscribeProfile s => exact .subscribed s rfl
  | onProfile ticket a => exact .acted ticket a rfl
  | subscribeEndpoints s p => exact .spared (fun _ _ _ => rfl) rfl rfl rfl
  | onEndpoints ticket a => exact .spared (fun _ _ _ => rfl) rfl rfl rfl

/-- Every operation is one step of effective profiles. -/
theorem step_profileTopics (ix : Index) (op : Operation) :
    Topics.Step ix.profileTopics (ix.perform op).profileTopics
      fun t a => op = .onProfile t a := by
  cases profileStep_perform ix op with
  | set key resources _ _ eq =>
    rw [eq]
    exact .moves (moves_setProfiles ix key resources)
  | subscribed s eq =>
    rw [eq]
    exact .subscribes (subscribes_subscribeProfile ix s)
  | acted ticket a eq =>
    rw [eq]
    exact .acts rfl ⟨rfl, fun _ => rfl⟩
  | spared _ _ profiles profileSubs =>
    refine .moves (.of_drop profileSubs fun {s state} _ hs => ?_)
    change (ix.perform op).profiles.services[s]? = some state
    rw [profiles]
    exact hs

end Index

end MeshDestination
