import MeshDestination.Proofs.Index.Arrival

/-!
# Listed pods

The list of pods is read off namespaces that come and go with their pods and replica sets. It holds
every pod that is applied and not deleted since, once, in the order of namespaces and names, and
says of it what its resource says; its workload (`IsWorkload`) follows from its owners and from the
replica sets that are applied. A namespace is kept exactly while it has a pod or a replica set
(`Pods.Tidy`), so that nothing is lost with those that are dropped (`Index.list_run`).
-/

namespace MeshDestination

open Cluster Std

/-! ## Workloads -/

/-- The kind and the name of a pod's workload, by the owners of the pod and those of the replica
sets around it. -/
inductive IsWorkload (ownersOf : String → Option (List OwnerRef)) (pod : String) :
    List OwnerRef → String → String → Prop
  /-- A pod whose owner is not unique is its own workload. -/
  | itself {owners : List OwnerRef} (notUnique : owners.length ≠ 1) :
    IsWorkload ownersOf pod owners "pod" pod
  | owner {owner : OwnerRef} (kind : owner.kind ≠ "ReplicaSet") :
    IsWorkload ownersOf pod [owner] (Text.lowercase owner.kind) owner.name
  /-- A replica set gives way to the deployment that it names first. -/
  | deployment {owner above : OwnerRef} {others : List OwnerRef} (kind : owner.kind = "ReplicaSet")
    (known : ownersOf owner.name = some (above :: others)) (first : above.kind = "Deployment") :
    IsWorkload ownersOf pod [owner] "deployment" above.name
  | replicaSet {owner : OwnerRef} (kind : owner.kind = "ReplicaSet")
    (none : ∀ above others, ownersOf owner.name = some (above :: others) →
      above.kind ≠ "Deployment") :
    IsWorkload ownersOf pod [owner] "replicaset" owner.name

namespace PodNamespace

theorem isWorkload_workload (n : PodNamespace) (name : String) (pod : PodState) :
    IsWorkload (n.replicaSets[·]?) name pod.owners (n.workload name pod).1
      (n.workload name pod).2 := by
  unfold workload
  match pod.owners with
  | [] => exact .itself nofun
  | _ :: _ :: _ => exact .itself (by simp)
  | [owner] =>
    by_cases hkind : owner.kind = "ReplicaSet"
    · simp only [hkind, if_true]
      match hsets : n.replicaSets[owner.name]? with
      | none => exact .replicaSet hkind fun above others h => by simp [hsets] at h
      | some [] => exact .replicaSet hkind fun above others h => by simp [hsets] at h
      | some (above :: others) =>
        simp only [Option.bind_some, List.head?_cons]
        split
        · next habove => exact .deployment hkind hsets habove
        · next habove =>
          refine .replicaSet hkind fun above' others' h => ?_
          simp only [hsets, Option.some.injEq, List.cons.injEq] at h
          exact h.1 ▸ habove
    · simp only [hkind, if_false]
      exact .owner hkind

end PodNamespace

/-- A pod has one workload. -/
theorem IsWorkload.unique {ownersOf : String → Option (List OwnerRef)} {pod : String}
    {owners : List OwnerRef} {kind kind' name name' : String}
    (h : IsWorkload ownersOf pod owners kind name)
    (h' : IsWorkload ownersOf pod owners kind' name') : kind = kind' ∧ name = name' := by
  cases h <;> cases h' <;> simp_all

/-! ## Lists -/

/-- What a list says of a pod is what a resource says of it, and its workload is found among replica
sets with some owners. -/
structure PodSummary.Tells (s : PodSummary) (o : PodObject)
    (ownersOf : String → Option (List OwnerRef)) : Prop where
  ip : s.ip = o.ip.bind Net.Ip.ofText?
  phase : s.phase = o.phase
  controlPlaneNs : s.controlPlaneNs = o.meta_.label? controlPlaneLabel
  workload : IsWorkload ownersOf s.name o.meta_.owners s.ownerKind s.ownerName

/-- A pod stands before another by namespace, and within a namespace by name. -/
def PodSummary.Before (a b : PodSummary) : Prop := a.ns < b.ns ∨ a.ns = b.ns ∧ a.name < b.name

namespace Pods

theorem mem_listNamespace {n : PodNamespace} {ns : String} {s : PodSummary} :
    s ∈ listNamespace n ns ↔ s.ns = ns ∧ ∃ pod, n.pods[s.name]? = some pod ∧ s.ip = pod.ip ∧
      s.phase = pod.phase ∧ s.controlPlaneNs = pod.controlPlaneNs ∧
      n.workload s.name pod = (s.ownerKind, s.ownerName) := by
  unfold listNamespace
  simp only [List.mem_map, Prod.exists, TreeMap.mem_toList_iff_getElem?_eq_some]
  constructor
  · rintro ⟨name, pod, hpod, rfl⟩
    exact ⟨rfl, pod, hpod, rfl, rfl, rfl, rfl⟩
  · rintro ⟨rfl, pod, hpod, hip, hphase, hplane, hworkload⟩
    refine ⟨s.name, pod, hpod, ?_⟩
    rw [hworkload, ← hip, ← hphase, ← hplane]

/-- A namespace without an entry has no pods to list. -/
theorem mem_list {p : Pods} {q : Option String} {s : PodSummary} :
    s ∈ p.list q ↔ (∀ ns, q = some ns → s.ns = ns) ∧ s ∈ listNamespace (p.get s.ns) s.ns := by
  have hasked (ns : String) : q.getD ns = ns ↔ ∀ ns', q = some ns' → ns = ns' := by
    cases q <;> simp [eq_comm]
  unfold list
  simp only [List.mem_flatMap, Prod.exists, TreeMap.mem_toList_iff_getElem?_eq_some]
  constructor
  · rintro ⟨ns, n, hn, hs⟩
    split at hs
    · next h =>
      obtain rfl : s.ns = ns := (mem_listNamespace.mp hs).1
      rw [get, TreeMap.getD_eq_getD_getElem?, hn]
      exact ⟨(hasked s.ns).mp h, hs⟩
    · cases hs
  · rintro ⟨h, hs⟩
    cases hn : p.namespaces[s.ns]? with
    | none =>
      obtain ⟨-, pod, hpod, -⟩ := mem_listNamespace.mp hs
      rw [get, TreeMap.getD_eq_getD_getElem?, hn] at hpod
      cases TreeMap.getElem?_emptyc.symm.trans hpod
    | some n =>
      rw [get, TreeMap.getD_eq_getD_getElem?, hn] at hs
      exact ⟨s.ns, n, hn, by rwa [if_pos ((hasked s.ns).mpr h)]⟩

theorem pairwise_listNamespace (n : PodNamespace) (ns : String) :
    (listNamespace n ns).Pairwise PodSummary.Before := by
  refine List.pairwise_map.mpr (TreeMap.ordered_keys_toList.imp fun h => ?_)
  exact .inr ⟨rfl, compareOfLessAndEq_eq_lt.mp h⟩

/-- What a list for `q` takes from a namespace. -/
theorem mem_asked {q : Option String} {n : PodNamespace} {ns : String} {s : PodSummary}
    (h : s ∈ if q.getD ns = ns then listNamespace n ns else []) : s ∈ listNamespace n ns := by
  split at h
  · exact h
  · cases h

theorem pairwise_list (p : Pods) (q : Option String) :
    (p.list q).Pairwise PodSummary.Before := by
  refine List.pairwise_flatMap.mpr ⟨?_, TreeMap.ordered_keys_toList.imp ?_⟩
  · rintro ⟨ns, n⟩ -
    dsimp only
    split
    · exact pairwise_listNamespace n ns
    · exact .nil
  · rintro ⟨ns, n⟩ ⟨ns', n'⟩ hlt s hs s' hs'
    rw [PodSummary.Before, (mem_listNamespace.mp (mem_asked hs)).1,
      (mem_listNamespace.mp (mem_asked hs')).1]
    exact .inl (compareOfLessAndEq_eq_lt.mp hlt)

/-! ## Namespaces that are kept -/

/-- Every namespace that is kept has a pod or a replica set. -/
def Tidy (p : Pods) : Prop :=
  ∀ (ns : String) (n : PodNamespace), p.namespaces[ns]? = some n → n.isEmpty = false

variable {p : Pods}

theorem tidy_empty : ({} : Pods).Tidy := by
  intro ns n hn
  cases TreeMap.getElem?_emptyc.symm.trans hn

theorem Tidy.insert (h : p.Tidy) (ns : String) {n : PodNamespace} (hn : n.isEmpty = false) :
    (p.insert ns n).Tidy := by
  intro ns' n' hn'
  simp only [Pods.insert, TreeMap.getElem?_insert, LawfulEqCmp.compare_eq_iff_eq] at hn'
  split at hn'
  · cases hn'
    exact hn
  · exact h ns' n' hn'

theorem Tidy.keep (h : p.Tidy) (ns : String) (n : PodNamespace) : (p.keep ns n).Tidy := by
  by_cases hempty : n.isEmpty = true
  · intro ns' n' hn'
    simp only [Pods.keep, hempty, if_true, TreeMap.getElem?_erase,
      LawfulEqCmp.compare_eq_iff_eq] at hn'
    split at hn'
    · cases hn'
    · exact h ns' n' hn'
  · have hkeep : p.keep ns n = p.insert ns n := by rw [Pods.keep, if_neg hempty, Pods.insert]
    rw [hkeep]
    exact h.insert ns (Bool.eq_false_iff.mpr hempty)

/-- An operation leaves no empty namespace behind, unless a replica set has no name. -/
theorem Tidy.after (h : p.Tidy) {op : Index.Operation}
    (hnamed : ∀ r, op = .apply r → r.meta_.name.isSome = true) : (p.after op).Tidy := by
  unfold Pods.after
  split
  · next o =>
    split
    · refine h.insert _ ?_
      rw [PodNamespace.isEmpty, PodNamespace.pods_insertPod, TreeMap.isEmpty_insert,
        Bool.false_and]
    · exact h
  · next o =>
    split
    · refine h.insert _ ?_
      rw [PodNamespace.isEmpty, TreeMap.isEmpty_insert, Bool.and_false]
    · next hname =>
      have hsome : o.meta_.name.isSome = true := hnamed _ rfl
      rw [hname] at hsome
      cases hsome
  · unfold erasePod
    split
    · exact h.keep _ _
    · exact h
  · unfold eraseReplicaSet
    split
    · exact h.keep _ _
    · exact h
  · exact h

/-- Where every namespace that is kept has something, those that are kept are those that have
something. -/
theorem Tidy.isSome_iff (h : p.Tidy) (ns : String) :
    (∃ n, p.namespaces[ns]? = some n) ↔ (∃ name pod, p.pod? ns name = some pod) ∨
      ∃ name owners, p.replicaSet? ns name = some owners := by
  have hpart {α : Type} (m : TreeMap String α) :
      m.isEmpty = false ↔ ∃ (name : String) (a : α), m[name]? = some a := by
    simp only [TreeMap.isEmpty_eq_false_iff_exists_mem, ← TreeMap.isSome_getElem?_iff_mem,
      Option.isSome_iff_exists]
  have hget : (p.get ns).isEmpty = false ↔ (∃ name pod, p.pod? ns name = some pod) ∨
      ∃ name owners, p.replicaSet? ns name = some owners := by
    rw [PodNamespace.isEmpty, Bool.and_eq_false_iff, hpart, hpart]
    rfl
  rw [← hget]
  constructor
  · rintro ⟨n, hn⟩
    rw [get, TreeMap.getD_eq_getD_getElem?, hn]
    exact h ns n hn
  · intro hempty
    cases hn : p.namespaces[ns]? with
    | none =>
      rw [get, TreeMap.getD_eq_getD_getElem?, hn] at hempty
      cases hempty
    | some n => exact ⟨n, rfl⟩

end Pods

/-! ## Runs -/

namespace Index

theorem tidy_run (c : ClusterInfo) {ops : List Operation}
    (hnamed : ∀ r, .apply r ∈ ops → r.meta_.name.isSome = true) :
    ((start c).run ops).pods.Tidy := by
  have hstart : (start c).pods.Tidy := Pods.tidy_empty
  refine run_invariant_of (P := fun ix => ix.pods.Tidy)
    (Q := fun op => ∀ r, op = .apply r → r.meta_.name.isSome = true)
    (fun ix op hop h => ?_) ops (fun op hop r hr => hnamed r (hr ▸ hop)) hstart
  rw [pods_perform]
  exact h.after hop

/-- The owners of the replica sets of a namespace that are applied and not deleted since. -/
def appliedOwners (ops : List Operation) (ns name : String) : Option (List OwnerRef) :=
  (appliedReplicaSet ops ⟨ns, name⟩).map (·.meta_.owners)

/-- The list of pods, of one namespace or of all, holds exactly the pods that are applied and not
deleted since, each once and in order, with what their resources say and with the workload that
follows from the replica sets that are applied. If all resources have names, a namespace is kept
exactly if a pod or a replica set of it is applied. -/
theorem list_run (c : ClusterInfo) (ops : List Operation) :
    let p := ((start c).run ops).pods
    (∀ q : Option String,
      (p.list q).Pairwise PodSummary.Before ∧
      ∀ s, s ∈ p.list q ↔ (∀ ns, q = some ns → s.ns = ns) ∧
        ∃ o, appliedPod ops ⟨s.ns, s.name⟩ = some o ∧ s.Tells o (appliedOwners ops s.ns)) ∧
    ((∀ r, .apply r ∈ ops → r.meta_.name.isSome = true) →
      ∀ ns, (∃ n, p.namespaces[ns]? = some n) ↔
        (∃ name o, appliedPod ops ⟨ns, name⟩ = some o) ∨
          ∃ name o, appliedReplicaSet ops ⟨ns, name⟩ = some o) := by
  intro p
  have hpods (ns name : String) : p.pod? ns name =
      (appliedPod ops ⟨ns, name⟩).map PodState.ofObject := pod?_run c ops ⟨ns, name⟩
  have hsets (ns : String) : ((p.get ns).replicaSets[·]?) = appliedOwners ops ns :=
    funext fun name => replicaSet?_run c ops ⟨ns, name⟩
  refine ⟨fun q => ⟨p.pairwise_list q, fun s => ?_⟩, fun hnamed ns => ?_⟩
  · rw [Pods.mem_list, Pods.mem_listNamespace]
    refine and_congr_right fun _ => ?_
    constructor
    · rintro ⟨-, pod, hpod, hip, hphase, hplane, hworkload⟩
      obtain ⟨o, ho, rfl⟩ := Option.map_eq_some_iff.mp ((hpods s.ns s.name).symm.trans hpod)
      have hw := (p.get s.ns).isWorkload_workload s.name (PodState.ofObject o)
      rw [hworkload, hsets] at hw
      exact ⟨o, ho, hip, hphase, hplane, hw⟩
    · rintro ⟨o, ho, hip, hphase, hplane, hworkload⟩
      have hpod : p.pod? s.ns s.name = some (PodState.ofObject o) := by rw [hpods, ho]; rfl
      have hw := (p.get s.ns).isWorkload_workload s.name (PodState.ofObject o)
      rw [hsets] at hw
      obtain ⟨hkind, hname⟩ := hw.unique hworkload
      exact ⟨rfl, _, hpod, hip, hphase, hplane, Prod.ext hkind hname⟩
  · have hset (name : String) : p.replicaSet? ns name = appliedOwners ops ns name :=
      congrFun (hsets ns) name
    have htidy : p.Tidy := tidy_run c hnamed
    rw [htidy.isSome_iff]
    simp [hpods, hset, appliedOwners, Option.map_eq_some_iff]

/-- The replica set comes after the pod that it owns, and the pod has the deployment for its
workload all the same. The other pod is gone, and its namespace with it. -/
theorem list_run_web :
    let ops := [.apply (.pod Sample.ownedPod), .apply (.pod (Sample.pod "other")),
      .apply (.replicaSet Sample.replicaSet), .delete .pod "other" "web-0"]
    let p := ((start {}).run ops).pods
    let listed : PodSummary :=
      ⟨"ns", "web-0", some Sample.backend.ip, some "Running", "deployment", "web", none⟩
    (∀ r, .apply r ∈ ops → r.meta_.name.isSome = true) ∧
    p.list none = [listed] ∧ p.sizes = [("ns", 1)] ∧
    (∃ o, appliedPod ops ⟨"ns", "web-0"⟩ = some o ∧ listed.Tells o (appliedOwners ops "ns")) ∧
    ∃ n, p.namespaces["ns"]? = some n := by
  intro ops p listed
  have hnamed : ∀ r, .apply r ∈ ops → r.meta_.name.isSome = true := by
    simp [ops, Resource.meta_, Sample.ownedPod, Sample.pod, Sample.replicaSet]
  have hlist : p.list none = [listed] := by decide +kernel
  obtain ⟨hlisted, hkept⟩ := list_run {} ops
  have hmem : listed ∈ p.list none := by
    rw [hlist]
    exact List.mem_singleton_self listed
  exact ⟨hnamed, hlist, by decide +kernel, (((hlisted none).2 listed).mp hmem).2,
    (hkept hnamed "ns").mpr (.inl ⟨"web-0", Sample.ownedPod, rfl⟩)⟩

end Index

end MeshDestination
