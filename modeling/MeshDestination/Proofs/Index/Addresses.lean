import Mathlib.Data.List.Induction
import MeshDestination.Proofs.Index.Owners

/-!
# Which pod an address leads to

Several pods of a namespace may have one address, at the same time or one after the other. The
address leads to the pod that it was last given to, as long as that pod is applied and has it
(`Index.resolve_run`). When that pod goes or gives the address up, the address leads nowhere, also
where an older pod has it still (`Index.survivor_not_found`). So no address leads to a pod that is
deleted or has moved, and a namespace that is dropped takes no address with it
(`Index.nameAt?_run`).
-/

namespace MeshDestination

open Net Cluster Std

namespace Pods

variable {p p' : Pods} {ns : String} {ip : Ip} {last : Option String}

/-- A pod is known and has an address. -/
def Holds (p : Pods) (ns name : String) (ip : Ip) : Prop :=
  ∃ pod, p.pod? ns name = some pod ∧ pod.ip = some ip

/-- An address leads to the last pod that it was given to, if that pod has it. -/
def LeadsTo (p : Pods) (ns : String) (ip : Ip) (last : Option String) : Prop :=
  ∀ name, p.nameAt? ns ip = some name ↔ last = some name ∧ p.Holds ns name ip

theorem leadsTo_empty (ns : String) (ip : Ip) : ({} : Pods).LeadsTo ns ip none := by
  intro name
  rw [show ({} : Pods).nameAt? ns ip = none from TreeMap.getElem?_emptyc]
  simp

theorem LeadsTo.congr (h : p.LeadsTo ns ip last) (hname : p'.nameAt? ns ip = p.nameAt? ns ip)
    (hpod : ∀ name, p'.pod? ns name = p.pod? ns name) : p'.LeadsTo ns ip last := by
  intro name
  rw [hname, h name, Holds, Holds, hpod]

theorem Alike.leadsTo (ha : Alike p p') (h : p'.LeadsTo ns ip last) : p.LeadsTo ns ip last :=
  h.congr (ha.nameAt? ns ip) (ha.pod? ns)

theorem holds_insertPod {ns' name name' : String} {pod : PodState} :
    (p.insertPod ns' name' pod).Holds ns name ip ↔
      if ns' = ns ∧ name' = name then pod.ip = some ip else p.Holds ns name ip := by
  rw [Holds, pod?_insertPod]
  split
  · simp
  · rfl

theorem holds_erasePod (hs : p.Sound) {ns' name name' : String} :
    (p.erasePod ns' name').Holds ns name ip ↔
      ¬(ns' = ns ∧ name' = name) ∧ p.Holds ns name ip := by
  rw [Holds, pod?_erasePod hs]
  split
  · next h => simp [h]
  · next h => simp [h, Holds]

/-- A pod that is recorded takes over the addresses it has. One that it had, and that led to it,
leads nowhere. -/
theorem LeadsTo.insertPod (h : p.LeadsTo ns ip last) (ns' name' : String) (pod : PodState) :
    (p.insertPod ns' name' pod).LeadsTo ns ip
      (if ns' = ns ∧ pod.ip = some ip then some name' else last) := by
  intro name
  rw [nameAt?_insertPod, holds_insertPod]
  by_cases hgiven : ns' = ns ∧ pod.ip = some ip
  · rw [if_pos hgiven, if_pos hgiven]
    simp +contextual [hgiven]
  rw [if_neg hgiven, if_neg hgiven]
  by_cases hself : ns' = ns ∧ name' = name
  · -- The pod does not have the address any more: if it led to the pod, the pod has lost it.
    obtain ⟨rfl, rfl⟩ := hself
    have hip : pod.ip ≠ some ip := fun hip => hgiven ⟨rfl, hip⟩
    have hlost (hat : p.nameAt? ns' ip = some name') :
        (p.get ns').lostIp? name' pod = some ip :=
      PodNamespace.lostIp?_eq_some.mpr ⟨((h name').mp hat).2, hip⟩
    grind
  · rw [if_neg hself, ← h name]
    grind

/-- An address that led to a pod that is forgotten leads nowhere. -/
theorem LeadsTo.erasePod (hs : p.Sound) (h : p.LeadsTo ns ip last) (ns' name' : String) :
    (p.erasePod ns' name').LeadsTo ns ip last := by
  intro name
  rw [nameAt?_erasePod hs, holds_erasePod hs]
  by_cases hself : ns' = ns ∧ name' = name
  · obtain ⟨rfl, rfl⟩ := hself
    have hheld (hat : p.nameAt? ns' ip = some name') :
        (p.pod? ns' name').bind (·.ip) = some ip :=
      Option.bind_eq_some_iff.mpr ((h name').mp hat).2
    grind
  · have := h name
    grind

end Pods

namespace Index

/-- The name of the pod that an operation gives an address of a namespace. -/
def Operation.gives? (ns : String) (ip : Ip) : Operation → Option String
  | .apply (.pod o) =>
    if o.meta_.namespaceName = ns ∧ (PodState.ofObject o).ip = some ip then o.meta_.name else none
  | _ => none

/-- The name of the pod that an address of a namespace was last given to. -/
def lastGiven? (ns : String) (ip : Ip) (ops : List Operation) : Option String :=
  (ops.filterMap (Operation.gives? ns ip)).getLast?

theorem lastGiven?_concat (ns : String) (ip : Ip) (ops : List Operation) (op : Operation) :
    lastGiven? ns ip (ops ++ [op]) = (op.gives? ns ip).or (lastGiven? ns ip ops) := by
  unfold lastGiven?
  rw [List.filterMap_append, List.getLast?_append]
  cases h : op.gives? ns ip <;> simp [h]

end Index

namespace Pods

variable {p : Pods} {ns : String} {ip : Ip} {last : Option String}

theorem LeadsTo.after (hs : p.Sound) (h : p.LeadsTo ns ip last) (op : Index.Operation) :
    (p.after op).LeadsTo ns ip ((op.gives? ns ip).or last) := by
  unfold Pods.after
  split
  · next o =>
    rw [Index.Operation.gives?]
    split
    · next name hname =>
      convert h.insertPod o.meta_.namespaceName name (PodState.ofObject o) using 1
      rw [hname]
      split <;> rfl
    · next hname =>
      rwa [hname, ite_self]
  · split
    · exact h.congr (nameAt?_setReplicaSets p _ _ ns ip) (pod?_setReplicaSets p _ _ ns)
    · exact (alike_touch p _).leadsTo h
  · exact h.erasePod hs _ _
  · exact (alike_eraseReplicaSet hs _ _).leadsTo
      (h.congr (nameAt?_setReplicaSets p _ _ ns ip) (pod?_setReplicaSets p _ _ ns))
  · next hpod _ _ _ =>
    have hgives : op.gives? ns ip = none := by
      unfold Index.Operation.gives?
      split
      · exact absurd rfl (hpod _)
      · rfl
    rwa [hgives]

end Pods

namespace Index

theorem leadsTo_run (c : ClusterInfo) (ops : List Operation) (ns : String) (ip : Ip) :
    ((start c).run ops).pods.LeadsTo ns ip (lastGiven? ns ip ops) := by
  induction ops using List.reverseRecOn with
  | nil => exact Pods.leadsTo_empty ns ip
  | append_singleton ops op ih =>
    rw [run_concat, pods_perform, lastGiven?_concat]
    exact ih.after (sound_run c ops) op

/-- An address without a reference is resolved to the owner of the pod that it was last given to, if
that pod is applied and has the address. Otherwise it is not resolved. -/
theorem resolve_run (c : ClusterInfo) (ops : List Operation) (ns : String) (ip : Ip)
    (owner : Owner) :
    ((start c).run ops).pods.resolve ns ip none = some owner ↔
      ∃ name o, lastGiven? ns ip ops = some name ∧ appliedPod ops ⟨ns, name⟩ = some o ∧
        (PodState.ofObject o).ip = some ip ∧
        owner = ((start c).run ops).pods.owner ns name (PodState.ofObject o) := by
  set p := ((start c).run ops).pods
  have hknown (name : String) :
      p.pod? ns name = (appliedPod ops ⟨ns, name⟩).map PodState.ofObject :=
    pod?_run c ops ⟨ns, name⟩
  have hat (name : String) : p.nameAt? ns ip = some name ↔
      lastGiven? ns ip ops = some name ∧ p.Holds ns name ip := leadsTo_run c ops ns ip name
  constructor
  · intro h
    obtain ⟨⟨_, name, pod⟩, hfound, rfl⟩ := Option.map_eq_some_iff.mp h
    obtain ⟨rfl, hname, hpod⟩ := Pods.atIp?_eq_some.mp hfound
    obtain ⟨hlast, pod', hpod', hip⟩ := (hat name).mp hname
    cases hpod.symm.trans hpod'
    obtain ⟨o, ho, rfl⟩ := Option.map_eq_some_iff.mp ((hknown name).symm.trans hpod)
    exact ⟨name, o, hlast, ho, hip, rfl⟩
  · rintro ⟨name, o, hlast, ho, hip, rfl⟩
    have hpod : p.pod? ns name = some (PodState.ofObject o) := by rw [hknown, ho]; rfl
    have hname : p.nameAt? ns ip = some name := (hat name).mpr ⟨hlast, _, hpod, hip⟩
    exact Option.map_eq_some_iff.mpr ⟨(ns, name, PodState.ofObject o),
      Pods.atIp?_eq_some.mpr ⟨rfl, hname, hpod⟩, rfl⟩

/-- Of two pods that have one address the one that was given it last is deleted. The other is
applied and has the address still, but the address is not resolved. -/
theorem survivor_not_found :
    let twin := { Sample.pod "ns" with meta_ := { name := some "web-1", ns := some "ns" } }
    let ops := [.apply (.pod (Sample.pod "ns")), .apply (.pod twin), .delete .pod "ns" "web-1"]
    appliedPod ops ⟨"ns", "web-0"⟩ = some (Sample.pod "ns") ∧
      (PodState.ofObject (Sample.pod "ns")).ip = some Sample.backend.ip ∧
      ((start {}).run ops).pods.resolve "ns" Sample.backend.ip none = none := by
  intro twin ops
  refine ⟨rfl, ?_, ?_⟩ <;> decide +kernel

end Index

/-! ## Dropped namespaces -/

/-- Without pods there are no addresses. -/
theorem PodNamespace.Sound.isEmpty_podsByIp {n : PodNamespace} (h : n.Sound)
    (hempty : n.isEmpty = true) : n.podsByIp.isEmpty = true := by
  by_contra hne
  obtain ⟨ip, hip⟩ := TreeMap.isEmpty_eq_false_iff_exists_mem.mp (Bool.eq_false_iff.mpr hne)
  obtain ⟨name, hname⟩ := Option.isSome_iff_exists.mp (TreeMap.isSome_getElem?_iff_mem.mpr hip)
  have hnone : n.podsByIp[ip]? = none :=
    ((h.alike_empty hempty).podsByIp ip).symm.trans TreeMap.getElem?_emptyc
  cases hnone.symm.trans hname

namespace Pods

/-- What a deletion leaves of the namespace of a pod or a replica set, before it is seen whether
anything keeps the namespace. -/
def remains? (p : Pods) : Index.Operation → Option (String × PodNamespace)
  | .delete .pod ns name => (p.pod? ns name).map fun _ => (ns, (p.get ns).erasePod name)
  | .delete .replicaSet ns name =>
    p.namespaces[ns]?.map fun n => (ns, { n with replicaSets := n.replicaSets.erase name })
  | _ => none

variable {p : Pods} {op : Index.Operation} {ns : String} {n : PodNamespace}

theorem after_of_remains? (h : p.remains? op = some (ns, n)) : p.after op = p.keep ns n := by
  unfold remains? at h
  split at h
  · obtain ⟨pod, hpod, heq⟩ := Option.map_eq_some_iff.mp h
    cases heq
    simp only [after, erasePod, hpod]
  · obtain ⟨m, hm, heq⟩ := Option.map_eq_some_iff.mp h
    cases heq
    simp only [after, eraseReplicaSet, hm]
  · cases h

theorem Sound.remains? (hs : p.Sound) (h : p.remains? op = some (ns, n)) : n.Sound := by
  unfold Pods.remains? at h
  split at h
  · obtain ⟨pod, -, heq⟩ := Option.map_eq_some_iff.mp h
    cases heq
    exact (hs ns).erasePod _
  · obtain ⟨m, hm, heq⟩ := Option.map_eq_some_iff.mp h
    cases heq
    have hsound := hs ns
    rw [get, TreeMap.getD_eq_getD_getElem?, hm] at hsound
    exact hsound
  · cases h

theorem isSome_insert (ns' : String) (m : PodNamespace) (h : p.namespaces[ns]?.isSome = true) :
    (p.insert ns' m).namespaces[ns]?.isSome = true := by
  simp only [Pods.insert, TreeMap.getElem?_insert]
  split
  · rfl
  · exact h

/-- Operations that are no deletions of pods or replica sets drop no namespace. -/
theorem isSome_after (h : p.namespaces[ns]?.isSome = true) (hop : p.remains? op = none) :
    (p.after op).namespaces[ns]?.isSome = true := by
  unfold after
  split
  · split
    · exact isSome_insert _ _ h
    · exact h
  · split
    · exact isSome_insert _ _ h
    · exact isSome_insert _ _ h
  · next ns' name =>
    have hpod : p.pod? ns' name = none := Option.map_eq_none_iff.mp hop
    simpa only [erasePod, hpod] using h
  · next ns' name =>
    have hnone : p.namespaces[ns']? = none := Option.map_eq_none_iff.mp hop
    simpa only [eraseReplicaSet, hnone] using h
  · exact h

/-- What is dropped is what a deletion has left without pods and replica sets. -/
theorem exists_remains?_of_dropped (h : p.namespaces[ns]?.isSome = true)
    (hdropped : (p.after op).namespaces[ns]? = none) :
    ∃ n, p.remains? op = some (ns, n) ∧ n.isEmpty = true := by
  cases hremains : p.remains? op with
  | none =>
    have hkept := isSome_after h hremains
    rw [hdropped] at hkept
    cases hkept
  | some left =>
    obtain ⟨ns', n⟩ := left
    rw [after_of_remains? hremains, keep] at hdropped
    by_cases hempty : n.isEmpty = true
    · simp only [hempty, if_true, TreeMap.getElem?_erase, LawfulEqCmp.compare_eq_iff_eq] at hdropped
      split at hdropped
      · next hns =>
        subst hns
        exact ⟨n, rfl, hempty⟩
      · rw [hdropped] at h
        cases h
    · have hkept := isSome_insert ns' n h
      rw [Pods.insert] at hkept
      simp only [hempty, Bool.false_eq_true, if_false] at hdropped
      rw [hdropped] at hkept
      cases hkept

end Pods

namespace Index

/-- After a run every address of a namespace leads to a pod that is applied there and not deleted
since, and whose resource states the address. So a pod is reached from one address at most, and an
owner that is found by an address is the owner of such a pod. A namespace that is dropped has no
pods, no replica sets and no addresses left. -/
theorem nameAt?_run (c : ClusterInfo) (ops : List Operation) (ns : String) :
    let p := ((start c).run ops).pods
    (∀ ip name, p.nameAt? ns ip = some name →
      ∃ o, appliedPod ops ⟨ns, name⟩ = some o ∧ o.ip.bind Ip.ofText? = some ip) ∧
    (∀ ip ip' name, p.nameAt? ns ip = some name → p.nameAt? ns ip' = some name → ip = ip') ∧
    (∀ ip ref owner, ref.bind (p.referenced? ns) = none → p.resolve ns ip ref = some owner →
      owner.ns = ns ∧ ∃ o, appliedPod ops ⟨ns, owner.pod⟩ = some o ∧
        o.ip.bind Ip.ofText? = some ip) ∧
    (∀ op, p.namespaces[ns]?.isSome = true →
      ((start c).run (ops ++ [op])).pods.namespaces[ns]? = none →
      ∃ n, p.remains? op = some (ns, n) ∧ n.isEmpty = true ∧ n.podsByIp.isEmpty = true) := by
  intro p
  have hsound : p.Sound := sound_run c ops
  have happlied (ip : Ip) (name : String) (h : p.nameAt? ns ip = some name) :
      ∃ o, appliedPod ops ⟨ns, name⟩ = some o ∧ o.ip.bind Ip.ofText? = some ip := by
    obtain ⟨pod, hpod, hip⟩ := hsound.pod?_of_nameAt? h
    obtain ⟨o, ho, rfl⟩ := Option.map_eq_some_iff.mp ((pod?_run c ops ⟨ns, name⟩).symm.trans hpod)
    exact ⟨o, ho, hip⟩
  refine ⟨happlied, fun ip ip' name h h' => ?_, fun ip ref owner href h => ?_,
    fun op hkept hdropped => ?_⟩
  · obtain ⟨o, ho, hip⟩ := happlied ip name h
    obtain ⟨o', ho', hip'⟩ := happlied ip' name h'
    cases ho.symm.trans ho'
    exact Option.some.inj (hip.symm.trans hip')
  · rw [Pods.resolve, href, Option.none_or] at h
    obtain ⟨⟨ns', name, pod⟩, hfound, rfl⟩ := Option.map_eq_some_iff.mp h
    obtain ⟨rfl, hname, -⟩ := Pods.atIp?_eq_some.mp hfound
    exact ⟨rfl, happlied ip name hname⟩
  · rw [run_concat, pods_perform] at hdropped
    obtain ⟨n, hremains, hempty⟩ := Pods.exists_remains?_of_dropped hkept hdropped
    exact ⟨n, hremains, hempty, (hsound.remains? hremains).isEmpty_podsByIp hempty⟩

/-- A pod takes over the address of another one, which moves and is deleted. When the pod is deleted
too, its namespace is dropped. -/
theorem nameAt?_run_takeover :
    let other : PodObject :=
      { Sample.pod "ns" with meta_ := { name := some "web-1", ns := some "ns" } }
    let moved : PodObject := { Sample.pod "ns" with ip := some "10.0.0.2" }
    let ops : List Operation := [.apply (.pod (Sample.pod "ns")), .apply (.pod other),
      .apply (.pod moved), .delete .pod "ns" "web-0"]
    let p := ((start {}).run ops).pods
    let owner : Owner := ⟨"ns", "web-1", "pod", "web-1"⟩
    p.nameAt? "ns" Sample.backend.ip = some "web-1" ∧
      p.resolve "ns" Sample.backend.ip none = some owner ∧
      (owner.ns = "ns" ∧ ∃ o, appliedPod ops ⟨"ns", owner.pod⟩ = some o ∧
        o.ip.bind Ip.ofText? = some Sample.backend.ip) ∧
      p.namespaces["ns"]?.isSome = true ∧
      ((start {}).run (ops ++ [.delete .pod "ns" "web-1"])).pods.namespaces["ns"]? = none ∧
      ∃ n, p.remains? (.delete .pod "ns" "web-1") = some ("ns", n) ∧ n.isEmpty = true ∧
        n.podsByIp.isEmpty = true := by
  intro other moved ops p owner
  have hname : p.nameAt? "ns" Sample.backend.ip = some "web-1" := by decide +kernel
  have howner : p.resolve "ns" Sample.backend.ip none = some owner := by decide +kernel
  have hkept : p.namespaces["ns"]?.isSome = true := by decide +kernel
  have hdropped : ((start {}).run (ops ++ [.delete .pod "ns" "web-1"])).pods.namespaces["ns"]? =
      none := by
    rw [← Option.isNone_iff_eq_none]
    decide +kernel
  obtain ⟨-, -, hfound, hgone⟩ := nameAt?_run {} ops "ns"
  exact ⟨hname, howner, hfound _ none owner rfl howner, hkept, hdropped, hgone _ hkept hdropped⟩

end Index

end MeshDestination
