import MeshDestination.Proofs.Index.Run

/-!
# How pods are found

What is known of pods answers three questions: which pod has a name, which name was last given an
address, and which owners a replica set has. Two states of knowledge that answer all three alike
count as the same (`Pods.Alike`): whether a namespace that has nothing is kept makes no difference.
Every address leads to a pod that has it (`Pods.Sound`). After a run, pods and replica sets are
known by the resources that are applied and not deleted since (`Index.pod?_run`,
`Index.replicaSet?_run`).
-/

namespace MeshDestination

open Net Cluster Std

/-! ## One namespace -/

namespace PodNamespace

/-- Every address leads to a pod that has it. -/
def Sound (n : PodNamespace) : Prop :=
  ∀ (ip : Ip) (name : String), n.podsByIp[ip]? = some name →
    ∃ pod : PodState, n.pods[name]? = some pod ∧ pod.ip = some ip

theorem sound_empty : ({} : PodNamespace).Sound := by
  intro ip name h
  rw [show ({} : PodNamespace).podsByIp[ip]? = none from TreeMap.getElem?_emptyc] at h
  cases h

/-- Two namespaces answer alike: they know the same pods, addresses and replica sets. -/
structure Alike (n n' : PodNamespace) : Prop where
  pods (name : String) : n.pods[name]? = n'.pods[name]?
  podsByIp (ip : Ip) : n.podsByIp[ip]? = n'.podsByIp[ip]?
  replicaSets (name : String) : n.replicaSets[name]? = n'.replicaSets[name]?

theorem Alike.refl (n : PodNamespace) : Alike n n :=
  ⟨fun _ => rfl, fun _ => rfl, fun _ => rfl⟩

/-- A namespace that nothing keeps has no answer. -/
theorem Sound.alike_empty {n : PodNamespace} (h : n.Sound) (hempty : n.isEmpty = true) :
    Alike {} n := by
  rw [isEmpty, Bool.and_eq_true] at hempty
  have hpods (name : String) : n.pods[name]? = none := TreeMap.getElem?_of_isEmpty hempty.1
  refine ⟨fun name => ?_, fun ip => ?_, fun name => ?_⟩
  · exact TreeMap.getElem?_emptyc.trans (hpods name).symm
  · refine TreeMap.getElem?_emptyc.trans (Option.eq_none_iff_forall_ne_some.mpr ?_).symm
    intro name hname
    obtain ⟨pod, hpod, -⟩ := h ip name hname
    rw [hpods] at hpod
    cases hpod
  · exact TreeMap.getElem?_emptyc.trans (TreeMap.getElem?_of_isEmpty hempty.2).symm

/-- An address is forgotten only if it still leads to the pod that gives it up. -/
theorem getElem?_podsByIp_forgetIp (n : PodNamespace) (ip ip' : Ip) (name : String) :
    (n.forgetIp ip name).podsByIp[ip']? =
      if ip = ip' ∧ n.podsByIp[ip']? = some name then none else n.podsByIp[ip']? := by
  unfold forgetIp
  by_cases hip : ip = ip'
  · subst hip
    by_cases hname : n.podsByIp[ip]? = some name
    · simp [hname]
    · simp [hname]
  · have hne : ¬(ip = ip' ∧ n.podsByIp[ip']? = some name) := fun h => hip h.1
    rw [if_neg hne]
    split
    · simp only [TreeMap.getElem?_erase, LawfulEqCmp.compare_eq_iff_eq, if_neg hip]
    · rfl

theorem pods_forgetIp (n : PodNamespace) (ip : Ip) (name : String) :
    (n.forgetIp ip name).pods = n.pods := by
  unfold forgetIp
  split <;> rfl

theorem replicaSets_forgetIp (n : PodNamespace) (ip : Ip) (name : String) :
    (n.forgetIp ip name).replicaSets = n.replicaSets := by
  unfold forgetIp
  split <;> rfl

/-! ### Recording a pod -/

/-- A pod loses the address it had unless it is recorded with the same one again. -/
theorem lostIp?_eq_some {n : PodNamespace} {name : String} {pod : PodState} {ip : Ip} :
    n.lostIp? name pod = some ip ↔
      (∃ old, n.pods[name]? = some old ∧ old.ip = some ip) ∧ pod.ip ≠ some ip := by
  rw [lostIp?, Option.filter_eq_some_iff, Option.bind_eq_some_iff, decide_eq_true_iff, ne_comm]

theorem pods_insertPod (n : PodNamespace) (name : String) (pod : PodState) :
    (n.insertPod name pod).pods = n.pods.insert name pod := by
  unfold insertPod
  cases n.lostIp? name pod <;> cases pod.ip <;> simp [pods_forgetIp]

theorem replicaSets_insertPod (n : PodNamespace) (name : String) (pod : PodState) :
    (n.insertPod name pod).replicaSets = n.replicaSets := by
  unfold insertPod
  cases n.lostIp? name pod <;> cases pod.ip <;> simp [replicaSets_forgetIp]

/-- The addresses that a pod has or loses lead to it or to nothing afterwards; all others stay. -/
theorem getElem?_podsByIp_insertPod (n : PodNamespace) (name : String) (pod : PodState) (ip : Ip) :
    (n.insertPod name pod).podsByIp[ip]? =
      if pod.ip = some ip then some name
      else if n.lostIp? name pod = some ip ∧ n.podsByIp[ip]? = some name then none
      else n.podsByIp[ip]? := by
  unfold insertPod
  cases hlost : n.lostIp? name pod with
  | none =>
    cases hpod : pod.ip with
    | none => simp
    | some ip' => simp only [TreeMap.getElem?_insert, LawfulEqCmp.compare_eq_iff_eq]; simp
  | some lost =>
    cases hpod : pod.ip with
    | none => simp [getElem?_podsByIp_forgetIp]
    | some ip' =>
      simp only [TreeMap.getElem?_insert, LawfulEqCmp.compare_eq_iff_eq,
        getElem?_podsByIp_forgetIp, Option.some.injEq]

/-- The address a pod loses is the only one that could lead to it in vain. -/
theorem Sound.insertPod {n : PodNamespace} (h : n.Sound) (name : String) (pod : PodState) :
    (n.insertPod name pod).Sound := by
  intro ip name' hname'
  rw [getElem?_podsByIp_insertPod] at hname'
  simp only [pods_insertPod, TreeMap.getElem?_insert, LawfulEqCmp.compare_eq_iff_eq]
  split at hname'
  · next hip =>
    cases hname'
    exact ⟨pod, if_pos rfl, hip⟩
  · next hip =>
    split at hname'
    · cases hname'
    · next hkept =>
      obtain ⟨old, hold, holdip⟩ := h ip name' hname'
      -- An entry that names the pod itself is one that the pod has lost.
      have hne : name ≠ name' := by
        rintro rfl
        exact hkept ⟨lostIp?_eq_some.mpr ⟨⟨old, hold, holdip⟩, hip⟩, hname'⟩
      exact ⟨old, by rw [if_neg hne]; exact hold, holdip⟩

/-! ### Forgetting a pod -/

/-- Forgetting a pod forgets no other. -/
theorem pods_erasePod (n : PodNamespace) (name name' : String) :
    (n.erasePod name).pods[name']? = if name = name' then none else n.pods[name']? := by
  unfold erasePod
  cases hpod : n.pods[name]? with
  | none =>
    by_cases hname : name = name'
    · subst hname
      simp [hpod]
    · simp [hname]
  | some pod =>
    cases hip : pod.ip <;>
      simp only [hip, pods_forgetIp, TreeMap.getElem?_erase, LawfulEqCmp.compare_eq_iff_eq]

theorem replicaSets_erasePod (n : PodNamespace) (name : String) :
    (n.erasePod name).replicaSets = n.replicaSets := by
  unfold erasePod
  cases n.pods[name]? with
  | none => rfl
  | some pod => cases hip : pod.ip <;> simp only [hip, replicaSets_forgetIp]

/-- The address of a pod that is forgotten is forgotten as well, unless a later pod has taken it
over. -/
theorem getElem?_podsByIp_erasePod (n : PodNamespace) (name : String) (ip : Ip) :
    (n.erasePod name).podsByIp[ip]? =
      if n.pods[name]?.bind (·.ip) = some ip ∧ n.podsByIp[ip]? = some name then none
      else n.podsByIp[ip]? := by
  unfold erasePod
  cases hpod : n.pods[name]? with
  | none => simp
  | some pod =>
    cases hip : pod.ip with
    | none => simp [hip]
    | some ip' =>
      simp only [hip, getElem?_podsByIp_forgetIp, Option.bind_some, Option.some.injEq]

theorem Sound.erasePod {n : PodNamespace} (h : n.Sound) (name : String) :
    (n.erasePod name).Sound := by
  intro ip name' hname'
  rw [getElem?_podsByIp_erasePod] at hname'
  rw [pods_erasePod]
  split at hname'
  · cases hname'
  · next hkept =>
    obtain ⟨old, hold, holdip⟩ := h ip name' hname'
    have hne : name ≠ name' := by
      rintro rfl
      exact hkept ⟨by rw [hold]; exact holdip, hname'⟩
    exact ⟨old, by rw [if_neg hne]; exact hold, holdip⟩

end PodNamespace

/-! ## All namespaces -/

namespace Pods

/-- The name that an address of a namespace leads to. -/
def nameAt? (p : Pods) (ns : String) (ip : Ip) : Option String := (p.get ns).podsByIp[ip]?

/-- The owners of a replica set. -/
def replicaSet? (p : Pods) (ns name : String) : Option (List OwnerRef) :=
  (p.get ns).replicaSets[name]?

/-- Every address leads to a pod that has it. -/
def Sound (p : Pods) : Prop := ∀ ns, (p.get ns).Sound

/-- Two states of knowledge with the same answers. -/
def Alike (p p' : Pods) : Prop := ∀ ns, (p.get ns).Alike (p'.get ns)

theorem sound_empty : ({} : Pods).Sound := by
  intro ns
  rw [show ({} : Pods).get ns = {} from TreeMap.getD_emptyc]
  exact PodNamespace.sound_empty

/-- Pods are found only where addresses lead to them. -/
theorem Sound.pod?_of_nameAt? {p : Pods} (h : p.Sound) {ns name : String} {ip : Ip}
    (hname : p.nameAt? ns ip = some name) : ∃ pod, p.pod? ns name = some pod ∧ pod.ip = some ip :=
  h ns ip name hname

/-! ### Setting a namespace -/

/-- A namespace is set without touching the others. -/
theorem get_insert (p : Pods) (ns ns' : String) (n : PodNamespace) :
    (p.insert ns n).get ns' = if ns = ns' then n else p.get ns' := by
  simp only [get, insert, TreeMap.getD_eq_getD_getElem?, TreeMap.getElem?_insert,
    LawfulEqCmp.compare_eq_iff_eq]
  split <;> rfl

theorem Sound.insert {p : Pods} (h : p.Sound) (ns : String) {n : PodNamespace} (hn : n.Sound) :
    (p.insert ns n).Sound := by
  intro ns'
  rw [get_insert]
  split
  · exact hn
  · exact h ns'

/-- What changes in the answers of one namespace changes there and nowhere else. -/
theorem answer_insert {α : Type} (answer : PodNamespace → Option α) (p : Pods) {ns : String}
    {n : PodNamespace} {c : Prop} [Decidable c] {new : Option α}
    (h : answer n = if c then new else answer (p.get ns)) (ns' : String) :
    answer ((p.insert ns n).get ns') = if ns = ns' ∧ c then new else answer (p.get ns') := by
  rw [get_insert]
  by_cases hns : ns = ns'
  · subst hns
    simp only [if_true, true_and, h]
  · simp only [hns, if_false, false_and]

theorem answer_insert_of_eq {α : Type} (answer : PodNamespace → Option α) (p : Pods) {ns : String}
    {n : PodNamespace} (h : answer n = answer (p.get ns)) (ns' : String) :
    answer ((p.insert ns n).get ns') = answer (p.get ns') := by
  rw [get_insert]
  split
  · next hns => rw [h, hns]
  · rfl

/-- A namespace that is not kept reads as an empty one. -/
theorem get_keep (p : Pods) (ns ns' : String) (n : PodNamespace) :
    (p.keep ns n).get ns' =
      if ns = ns' then if n.isEmpty then {} else n else p.get ns' := by
  simp only [get, keep, TreeMap.getD_eq_getD_getElem?]
  by_cases hempty : n.isEmpty = true
  · simp only [hempty, if_true, TreeMap.getElem?_erase, LawfulEqCmp.compare_eq_iff_eq]
    split <;> rfl
  · simp only [hempty, Bool.false_eq_true, if_false, TreeMap.getElem?_insert,
      LawfulEqCmp.compare_eq_iff_eq]
    split <;> rfl

/-- Whether a namespace that has nothing is kept makes no difference. -/
theorem alike_keep (p : Pods) (ns : String) {n : PodNamespace} (hn : n.Sound) :
    Alike (p.keep ns n) (p.insert ns n) := by
  intro ns'
  rw [get_keep, get_insert]
  split
  · split
    · next hempty => exact hn.alike_empty hempty
    · exact .refl n
  · exact .refl _

theorem Alike.pod? {p p' : Pods} (h : Alike p p') (ns name : String) :
    p.pod? ns name = p'.pod? ns name := (h ns).pods name

theorem Alike.nameAt? {p p' : Pods} (h : Alike p p') (ns : String) (ip : Ip) :
    p.nameAt? ns ip = p'.nameAt? ns ip := (h ns).podsByIp ip

theorem Alike.replicaSet? {p p' : Pods} (h : Alike p p') (ns name : String) :
    p.replicaSet? ns name = p'.replicaSet? ns name := (h ns).replicaSets name

/-- What is read off alike answers is sound on both sides or on neither. -/
theorem Alike.sound {p p' : Pods} (h : Alike p p') (hs : p'.Sound) : p.Sound := by
  intro ns ip name hname
  rw [(h ns).podsByIp] at hname
  obtain ⟨pod, hpod, hip⟩ := hs ns ip name hname
  exact ⟨pod, ((h ns).pods name).trans hpod, hip⟩

/-! ### Operations -/

variable {p : Pods}

/-- A pod is forgotten within its namespace, whether or not the namespace is kept for it. -/
theorem alike_erasePod (hs : p.Sound) (ns name : String) :
    Alike (p.erasePod ns name) (p.insert ns ((p.get ns).erasePod name)) := by
  unfold erasePod
  split
  · exact alike_keep p ns ((hs ns).erasePod name)
  · next hnone =>
    intro ns'
    rw [get_insert]
    split
    · next hns =>
      subst hns
      rw [PodNamespace.erasePod, show (p.get ns).pods[name]? = none from hnone]
      exact .refl _
    · exact .refl _

/-- A replica set is forgotten within its namespace, which may be one that nothing is known of. -/
theorem alike_eraseReplicaSet (hs : p.Sound) (ns name : String) :
    Alike (p.eraseReplicaSet ns name)
      (p.insert ns { p.get ns with replicaSets := (p.get ns).replicaSets.erase name }) := by
  unfold eraseReplicaSet
  split
  · next n hn =>
    have hget : p.get ns = n := by rw [get, TreeMap.getD_eq_getD_getElem?, hn]; rfl
    have hsound := hs ns
    rw [hget] at hsound ⊢
    exact alike_keep p ns hsound
  · next hn =>
    have hget : p.get ns = {} := by rw [get, TreeMap.getD_eq_getD_getElem?, hn]; rfl
    intro ns'
    rw [get_insert]
    split
    · next hns =>
      subst hns
      rw [hget]
      exact ⟨fun _ => rfl, fun _ => rfl, fun name' => by simp⟩
    · exact .refl _

/-- Making sure that a namespace is there tells nothing new. -/
theorem alike_touch (p : Pods) (ns : String) : Alike (p.touch ns) p := by
  intro ns'
  rw [touch, get_insert]
  split
  · next hns =>
    rw [hns]
    exact .refl _
  · exact .refl _

theorem Sound.insertPod (h : p.Sound) (ns name : String) (pod : PodState) :
    (p.insertPod ns name pod).Sound :=
  h.insert ns ((h ns).insertPod name pod)

theorem Sound.erasePod (h : p.Sound) (ns name : String) : (p.erasePod ns name).Sound :=
  (alike_erasePod h ns name).sound (h.insert ns ((h ns).erasePod name))

theorem Sound.insertReplicaSet (h : p.Sound) (ns name : String) (owners : List OwnerRef) :
    (p.insertReplicaSet ns name owners).Sound :=
  h.insert ns (h ns)

theorem Sound.eraseReplicaSet (h : p.Sound) (ns name : String) :
    (p.eraseReplicaSet ns name).Sound :=
  (alike_eraseReplicaSet h ns name).sound (h.insert ns (h ns))

/-- A pod that is recorded is found by its name. -/
theorem pod?_insertPod (ns name : String) (pod : PodState) (ns' name' : String) :
    (p.insertPod ns name pod).pod? ns' name' =
      if ns = ns' ∧ name = name' then some pod else p.pod? ns' name' := by
  refine answer_insert (·.pods[name']?) p ?_ ns'
  simp only [PodNamespace.pods_insertPod, TreeMap.getElem?_insert, LawfulEqCmp.compare_eq_iff_eq]

/-- A pod that is forgotten is found no more. -/
theorem pod?_erasePod (hs : p.Sound) (ns name ns' name' : String) :
    (p.erasePod ns name).pod? ns' name' =
      if ns = ns' ∧ name = name' then none else p.pod? ns' name' := by
  rw [(alike_erasePod hs ns name).pod?]
  exact answer_insert (·.pods[name']?) p ((p.get ns).pods_erasePod name name') ns'

/-- Pods say nothing of the owners of replica sets. -/
theorem replicaSet?_insertPod (ns name : String) (pod : PodState) (ns' rs : String) :
    (p.insertPod ns name pod).replicaSet? ns' rs = p.replicaSet? ns' rs := by
  refine answer_insert_of_eq (·.replicaSets[rs]?) p ?_ ns'
  rw [PodNamespace.replicaSets_insertPod]

theorem replicaSet?_erasePod (hs : p.Sound) (ns name ns' rs : String) :
    (p.erasePod ns name).replicaSet? ns' rs = p.replicaSet? ns' rs := by
  rw [(alike_erasePod hs ns name).replicaSet?]
  refine answer_insert_of_eq (·.replicaSets[rs]?) p ?_ ns'
  rw [PodNamespace.replicaSets_erasePod]

/-- An address leads to the pod that was recorded with it last, and to nothing once that pod is
recorded without it. -/
theorem nameAt?_insertPod (ns name : String) (pod : PodState) (ns' : String) (ip : Ip) :
    (p.insertPod ns name pod).nameAt? ns' ip =
      if ns = ns' ∧ pod.ip = some ip then some name
      else if ns = ns' ∧ (p.get ns).lostIp? name pod = some ip ∧
        p.nameAt? ns' ip = some name then none
      else p.nameAt? ns' ip := by
  rw [nameAt?, insertPod, get_insert]
  by_cases hns : ns = ns'
  · subst hns
    simp only [if_true, PodNamespace.getElem?_podsByIp_insertPod, true_and]
    rfl
  · simp only [hns, if_false, false_and]
    rfl

/-- An address leads nowhere once the pod it led to is forgotten. -/
theorem nameAt?_erasePod (hs : p.Sound) (ns name ns' : String) (ip : Ip) :
    (p.erasePod ns name).nameAt? ns' ip =
      if ns = ns' ∧ (p.pod? ns name).bind (·.ip) = some ip ∧ p.nameAt? ns' ip = some name then none
      else p.nameAt? ns' ip := by
  rw [(alike_erasePod hs ns name).nameAt?, nameAt?, get_insert]
  by_cases hns : ns = ns'
  · subst hns
    simp only [if_true, PodNamespace.getElem?_podsByIp_erasePod, true_and]
    rfl
  · simp only [hns, if_false, false_and]
    rfl

/-- New replica sets leave the pods of a namespace as they are. -/
theorem pod?_setReplicaSets (p : Pods) (ns : String) (sets : TreeMap String (List OwnerRef))
    (ns' name : String) :
    (p.insert ns { p.get ns with replicaSets := sets }).pod? ns' name = p.pod? ns' name := by
  refine answer_insert_of_eq (·.pods[name]?) p ?_ ns'
  rfl

theorem nameAt?_setReplicaSets (p : Pods) (ns : String) (sets : TreeMap String (List OwnerRef))
    (ns' : String) (ip : Ip) :
    (p.insert ns { p.get ns with replicaSets := sets }).nameAt? ns' ip = p.nameAt? ns' ip := by
  refine answer_insert_of_eq (·.podsByIp[ip]?) p ?_ ns'
  rfl

theorem replicaSet?_insertReplicaSet (ns name : String) (owners : List OwnerRef)
    (ns' name' : String) :
    (p.insertReplicaSet ns name owners).replicaSet? ns' name' =
      if ns = ns' ∧ name = name' then some owners else p.replicaSet? ns' name' := by
  refine answer_insert (·.replicaSets[name']?) p ?_ ns'
  simp only [TreeMap.getElem?_insert, LawfulEqCmp.compare_eq_iff_eq]

theorem replicaSet?_eraseReplicaSet (hs : p.Sound) (ns name ns' name' : String) :
    (p.eraseReplicaSet ns name).replicaSet? ns' name' =
      if ns = ns' ∧ name = name' then none else p.replicaSet? ns' name' := by
  rw [(alike_eraseReplicaSet hs ns name).replicaSet?]
  refine answer_insert (·.replicaSets[name']?) p ?_ ns'
  simp only [TreeMap.getElem?_erase, LawfulEqCmp.compare_eq_iff_eq]

end Pods

/-! ## Runs -/

namespace Cluster.Resource

/-- The resource as a pod. -/
def pod? : Resource → Option PodObject
  | .pod o => some o
  | _ => none

/-- The resource as a replica set. -/
def replicaSet? : Resource → Option ReplicaSetObject
  | .replicaSet o => some o
  | _ => none

end Cluster.Resource

namespace Pods

/-- What is known of pods after an operation. -/
def after (p : Pods) : Index.Operation → Pods
  | .apply (.pod o) =>
    match o.meta_.name with
    | some name => p.insertPod o.meta_.namespaceName name (PodState.ofObject o)
    | none => p
  | .apply (.replicaSet o) =>
    match o.meta_.name with
    | some name => p.insertReplicaSet o.meta_.namespaceName name o.meta_.owners
    | none => p.touch o.meta_.namespaceName
  | .delete .pod ns name => p.erasePod ns name
  | .delete .replicaSet ns name => p.eraseReplicaSet ns name
  | _ => p

/-- Every operation leaves each address leading to a pod that has it. -/
theorem Sound.after {p : Pods} (h : p.Sound) (op : Index.Operation) : (p.after op).Sound := by
  unfold Pods.after
  split
  · split
    · exact h.insertPod _ _ _
    · exact h
  · split
    · exact h.insertReplicaSet _ _ _
    · exact (alike_touch p _).sound h
  · exact h.erasePod _ _
  · exact h.eraseReplicaSet _ _
  · exact h

/-- Pods stay in step with the pod resources under each operation. -/
theorem pod?_after {p : Pods} (hs : p.Sound) (op : Index.Operation) {key : ObjectKey}
    {current : Option PodObject} (h : p.pod? key.ns key.name = current.map PodState.ofObject) :
    (p.after op).pod? key.ns key.name =
      (Index.record Resource.pod? .pod key current op).map PodState.ofObject := by
  obtain ⟨ns, name⟩ := key
  unfold Pods.after
  split
  · next o =>
    cases hname : o.meta_.name with
    | none => simpa [Index.record, Resource.key?, Resource.meta_, hname] using h
    | some name' =>
      simp only [pod?_insertPod, Index.record, Resource.key?, Resource.meta_, hname, Resource.pod?,
        Option.map_some, Option.some.injEq, ObjectKey.mk.injEq, Option.some_or, h]
      split <;> rfl
  · next o =>
    have hrecord : Index.record Resource.pod? .pod ⟨ns, name⟩ current (.apply (.replicaSet o)) =
        current := by simp [Index.record, Resource.pod?]
    rw [hrecord, ← h]
    split
    · exact pod?_setReplicaSets p _ _ ns name
    · exact (alike_touch p _).pod? ns name
  · next ns' name' =>
    simp only [pod?_erasePod hs, Index.record, true_and, ObjectKey.mk.injEq, h, eq_comm]
    split <;> rfl
  · next ns' name' =>
    rw [(alike_eraseReplicaSet hs ns' name').pod?, pod?_setReplicaSets, h]
    simp [Index.record]
  · next hpod hset herase heraseSet =>
    rw [h]
    congr 1
    cases op with
    | apply r => cases r <;> simp_all [Index.record, Resource.pod?]
    | delete kind ns' name' => cases kind <;> simp_all [Index.record]
    | _ => rfl

/-- Replica sets stay in step with their resources under each operation. -/
theorem replicaSet?_after {p : Pods} (hs : p.Sound) (op : Index.Operation) {key : ObjectKey}
    {current : Option ReplicaSetObject}
    (h : p.replicaSet? key.ns key.name = current.map (·.meta_.owners)) :
    (p.after op).replicaSet? key.ns key.name =
      (Index.record Resource.replicaSet? .replicaSet key current op).map (·.meta_.owners) := by
  obtain ⟨ns, name⟩ := key
  unfold Pods.after
  split
  · next o =>
    have hrecord : Index.record Resource.replicaSet? .replicaSet ⟨ns, name⟩ current
        (.apply (.pod o)) = current := by simp [Index.record, Resource.replicaSet?]
    rw [hrecord, ← h]
    split
    · exact replicaSet?_insertPod _ _ _ ns name
    · rfl
  · next o =>
    cases hname : o.meta_.name with
    | none =>
      simpa [Index.record, Resource.key?, Resource.meta_, hname, (alike_touch p _).replicaSet?]
        using h
    | some name' =>
      simp only [replicaSet?_insertReplicaSet, Index.record, Resource.key?, Resource.meta_, hname,
        Resource.replicaSet?, Option.map_some, Option.some.injEq, ObjectKey.mk.injEq,
        Option.some_or, h]
      split <;> rfl
  · next ns' name' =>
    rw [replicaSet?_erasePod hs, h]
    simp [Index.record]
  · next ns' name' =>
    simp only [replicaSet?_eraseReplicaSet hs, Index.record, true_and, ObjectKey.mk.injEq, h,
      eq_comm]
    split <;> rfl
  · next hpod hset herase heraseSet =>
    rw [h]
    congr 1
    cases op with
    | apply r => cases r <;> simp_all [Index.record, Resource.replicaSet?]
    | delete kind ns' name' => cases kind <;> simp_all [Index.record]
    | _ => rfl

end Pods

namespace Index

/-- What an operation on the index means for pods does not depend on services or subscriptions. -/
theorem pods_perform (ix : Index) (op : Operation) : (ix.perform op).pods = ix.pods.after op := by
  cases op with
  | apply r =>
    change (ix.apply r).1.pods = _
    unfold apply
    split
    · next name hname =>
      cases r with
      | service o => rfl
      | endpoints o => rfl
      | pod o => rw [Pods.after, show o.meta_.name = some name from hname]; rfl
      | replicaSet o => rw [Pods.after, show o.meta_.name = some name from hname]; rfl
      | serviceProfile o =>
        rw [applyNamed]
        split <;> rfl
    · next hname =>
      cases r with
      | pod o => rw [Pods.after, show o.meta_.name = none from hname]; rfl
      | replicaSet o => rw [Pods.after, show o.meta_.name = none from hname]; rfl
      | _ => rfl
  | delete kind ns name =>
    cases kind with
    | service =>
      change (ix.deleteService _).pods = ix.pods
      unfold deleteService
      split <;> rfl
    | endpoints =>
      change (ix.deleteEndpoints _).pods = ix.pods
      unfold deleteEndpoints
      split <;> rfl
    | pod => rfl
    | replicaSet => rfl
    | serviceProfile =>
      change (ix.deleteProfile _).pods = ix.pods
      unfold deleteProfile
      split <;> rfl
  | subscribeEndpoints s p => rfl
  | subscribeProfile s => rfl
  | onEndpoints ticket a => rfl
  | onProfile ticket a => rfl

/-- The pod resource that is applied under a key and not deleted since. -/
def appliedPod (ops : List Operation) (key : ObjectKey) : Option PodObject :=
  applied Resource.pod? .pod key ops

/-- The replica set that is applied under a key and not deleted since. -/
def appliedReplicaSet (ops : List Operation) (key : ObjectKey) : Option ReplicaSetObject :=
  applied Resource.replicaSet? .replicaSet key ops

theorem sound_perform {ix : Index} (h : ix.pods.Sound) (op : Operation) :
    (ix.perform op).pods.Sound := by
  rw [pods_perform]
  exact h.after op

/-- In every run each address leads to a pod that has it. -/
theorem sound_run (c : ClusterInfo) (ops : List Operation) : ((start c).run ops).pods.Sound := by
  have hstart : (start c).pods.Sound := Pods.sound_empty
  exact run_invariant (P := fun ix => ix.pods.Sound) (fun _ op h => sound_perform h op) ops hstart

/-- What an operation keeps in step with the applied resources, a run does. -/
theorem read_run {α β : Type} {pick : Resource → Option α} {kind : Kind} {key : ObjectKey}
    (read : Pods → Option β) (value : α → β) (hempty : read {} = none)
    (hafter : ∀ {p : Pods} {op : Operation} {current : Option α}, p.Sound →
      read p = current.map value → read (p.after op) = (record pick kind key current op).map value)
    (c : ClusterInfo) (ops : List Operation) :
    read ((start c).run ops).pods = (applied pick kind key ops).map value := by
  have hrun (ops : List Operation) : ∀ {ix : Index} {current : Option α}, ix.pods.Sound →
      read ix.pods = current.map value →
      read (ix.run ops).pods = (ops.foldl (record pick kind key) current).map value := by
    induction ops with
    | nil => exact fun _ h => h
    | cons op ops ih =>
      intro ix current hs h
      refine ih (sound_perform hs op) ?_
      rw [pods_perform]
      exact hafter hs h
  exact hrun ops Pods.sound_empty hempty

/-- After a run the pods that are known are those that are applied and not deleted since. -/
theorem pod?_run (c : ClusterInfo) (ops : List Operation) (key : ObjectKey) :
    ((start c).run ops).pods.pod? key.ns key.name =
      (appliedPod ops key).map PodState.ofObject :=
  read_run (fun p => p.pod? key.ns key.name) _ TreeMap.getElem?_emptyc
    (fun hs h => Pods.pod?_after hs _ h) c ops

/-- After a run the owners of a replica set are those of the resource that is applied. -/
theorem replicaSet?_run (c : ClusterInfo) (ops : List Operation) (key : ObjectKey) :
    ((start c).run ops).pods.replicaSet? key.ns key.name =
      (appliedReplicaSet ops key).map (·.meta_.owners) :=
  read_run (fun p => p.replicaSet? key.ns key.name) _ TreeMap.getElem?_emptyc
    (fun hs h => Pods.replicaSet?_after hs _ h) c ops

/-- What is applied under a key came with an operation. -/
theorem mem_of_applied {α : Type} {pick : Resource → Option α} {kind : Kind} {key : ObjectKey}
    {ops : List Operation} {a : α} (h : applied pick kind key ops = some a) :
    ∃ r, .apply r ∈ ops ∧ r.key? = some key ∧ pick r = some a := by
  have hfold (ops : List Operation) : ∀ {current : Option α},
      ops.foldl (record pick kind key) current = some a →
      current = some a ∨ ∃ r, .apply r ∈ ops ∧ r.key? = some key ∧ pick r = some a := by
    induction ops with
    | nil => exact fun h => .inl h
    | cons op ops ih =>
      intro current hfold
      rcases ih hfold with hrecord | ⟨r, hr, hkey, hpick⟩
      · unfold record at hrecord
        split at hrecord
        · next r =>
          split at hrecord
          · next hkey =>
            rcases Option.or_eq_some_iff.mp hrecord with hpick | ⟨-, hcurrent⟩
            · exact .inr ⟨r, List.mem_cons_self, hkey, hpick⟩
            · exact .inl hcurrent
          · exact .inl hrecord
        · split at hrecord
          · cases hrecord
          · exact .inl hrecord
        · exact .inl hrecord
      · exact .inr ⟨r, List.mem_cons_of_mem op hr, hkey, hpick⟩
  rcases hfold ops h with hnone | hmem
  · cases hnone
  · exact hmem

end Index

end MeshDestination
