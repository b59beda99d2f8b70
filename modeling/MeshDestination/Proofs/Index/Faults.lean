import MeshDestination.Proofs.Index.Convergence
import MeshDestination.Proofs.Profile.Conversion

/-!
# Profile resources that are a fault

A profile resource with a name is taken whatever its texts are, and what it does not concern stays
as it is, unless one of its durations is too long: then nothing of it is taken
(`Index.apply_serviceProfile`).
-/

namespace MeshDestination

open Cluster Std

namespace Index

/-- From `before` to `after` nothing changes but the profile of a key, the services that it may
govern, and what their listeners are told. -/
structure TakesProfile (before : Index) (key : ObjectKey) (profile : Profile) (after : Index) :
    Prop where
  resources : ∀ k, after.profiles.resources[k]? =
    if key = k then some profile else before.profiles.resources[k]?
  effective : ∀ s, ¬Profiles.mayGovern before.cluster key s = true →
    after.profiles.effective after.cluster s = before.profiles.effective before.cluster s
  listeners : ∀ sub ∈ before.profileSubs.entries,
    ¬Profiles.mayGovern before.cluster key sub.topic = true → sub ∈ after.profileSubs.entries
  cluster : after.cluster = before.cluster
  services : after.services = before.services
  pods : after.pods = before.pods
  endpointSubs : after.endpointSubs = before.endpointSubs

theorem takesProfile_applyProfile (ix : Index) (key : ObjectKey) (profile : Profile) :
    ix.TakesProfile key profile (ix.applyProfile key profile) where
  resources k := by
    change (ix.profiles.resources.insert key profile)[k]? = _
    simp only [TreeMap.getElem?_insert, LawfulEqCmp.compare_eq_iff_eq]
  effective s hs := by
    refine effective_replace_of_not_mayGovern hs fun k hk => ?_
    rw [TreeMap.getElem?_insert, if_neg fun heq => hk (LawfulEqCmp.eq_of_compare heq).symm]
  listeners sub hsub hs := by
    refine List.mem_map.mpr ⟨sub, hsub, ?_⟩
    have hsilent : Profiles.changes ix.profiles (ix.profiles.insert ix.cluster key profile)
        ix.cluster key sub.topic = [] := by
      unfold Profiles.changes
      split
      · simp [hs]
      · rfl
    rw [hsilent]
    rfl
  cluster := rfl
  services := rfl
  pods := rfl
  endpointSubs := rfl

theorem apply_of_not_tooLong (ix : Index) {o : ServiceProfileObject} {key : ObjectKey}
    (hkey : (Resource.serviceProfile o).key? = some key) (hfits : ¬o.spec.TooLong) :
    ix.apply (.serviceProfile o) = (ix.applyProfile key (.ofUsable o.spec), none) := by
  obtain ⟨name, hname, rfl⟩ := Option.map_eq_some_iff.mp hkey
  rw [apply, hname]
  change ix.applyNamed o.meta_.namespaceName name (.serviceProfile o) = _
  rw [applyNamed, Profile.ofSpec_eq_ok hfits]
  rfl

theorem apply_of_tooLong (ix : Index) {o : ServiceProfileObject} {key : ObjectKey}
    (hkey : (Resource.serviceProfile o).key? = some key) (hlong : o.spec.TooLong) :
    ix.apply (.serviceProfile o) = (ix, some .durationOverflow) := by
  obtain ⟨name, hname, -⟩ := Option.map_eq_some_iff.mp hkey
  rw [apply, hname]
  change ix.applyNamed o.meta_.namespaceName name (.serviceProfile o) = _
  rw [applyNamed, Profile.ofSpec_eq_overflow hlong]

/-- A profile resource with a name completes, and its profile is made of what can be used of it,
unless a duration that counts is too long. Then nothing of it is taken. -/
theorem apply_serviceProfile (ix : Index) {o : ServiceProfileObject} {key : ObjectKey}
    (hkey : (Resource.serviceProfile o).key? = some key) :
    (¬o.spec.TooLong → (ix.apply (.serviceProfile o)).2 = none ∧
      ix.TakesProfile key (.ofUsable o.spec) (ix.apply (.serviceProfile o)).1) ∧
    (o.spec.TooLong → ix.apply (.serviceProfile o) = (ix, some .durationOverflow)) := by
  refine ⟨fun hfits => ?_, apply_of_tooLong ix hkey⟩
  rw [apply_of_not_tooLong ix hkey hfits]
  exact ⟨rfl, takesProfile_applyProfile ix key _⟩

end Index

namespace Sample

/-- A profile resource with two routes, one of which has a timeout. -/
def timed (timeout : String) : ServiceProfileObject :=
  let profile := profile "ns" "get"
  { profile with spec := { profile.spec with
      routes := { name := "slow", condition := { method := some "POST" }
                  timeout := some timeout } :: profile.spec.routes } }

end Sample

namespace Index

/-- A timeout without a unit costs its own route. -/
theorem apply_serviceProfile_noUnit :
    ((start {}).apply (.serviceProfile (Sample.timed "10"))).2 = none ∧
      (Profile.ofUsable (Sample.timed "10").spec).routes.map (·.name) = ["get"] ∧
      TakesProfile (start {}) ⟨"ns", "web.ns.svc.cluster.local"⟩
        (.ofUsable (Sample.timed "10").spec)
        ((start {}).apply (.serviceProfile (Sample.timed "10"))).1 := by
  have hfits : ¬(Sample.timed "10").spec.TooLong := by
    intro hlong
    have hok : (Profile.ofSpec (Sample.timed "10").spec).toOption.isSome = true := by
      decide +kernel
    rw [Profile.ofSpec_eq_overflow hlong] at hok
    cases hok
  obtain ⟨hnone, htakes⟩ := (apply_serviceProfile (start {}) rfl).1 hfits
  exact ⟨hnone, by decide +kernel, htakes⟩

/-- A timeout that is too long is a fault of the whole resource: not even the other route is taken.
-/
theorem apply_serviceProfile_durationOverflow :
    let faulty := Resource.serviceProfile (Sample.timed "99999999999999999999s")
    faulty.key? = some ⟨"ns", "web.ns.svc.cluster.local"⟩ ∧
    ((start {}).apply faulty).2 = some .durationOverflow ∧
    (((start {}).apply faulty).1.profiles.effective {} Sample.web).isNone = true ∧
    (RouteSpec.ofSpec (Sample.profile "ns" "get").spec.routes[0]).toOption.isSome = true := by
  decide +kernel

end Index

end MeshDestination
