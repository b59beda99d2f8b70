import MeshDestination.Proofs.Index.Pods
import MeshDestination.Proofs.Index.Services
import MeshDestination.Proofs.Index.Snapshot

/-!
# Recorded owners

The owner of an address is looked up when its port is computed, and recorded. An operation on a pod
computes those services anew that list, in the pod's namespace, an address of the pod. Recorded
owners therefore stay what a new lookup would find (`ServiceState.Fresh`) for addresses whose target
reference names a pod of the service's namespace that has one of the listed addresses
(`EndpointAddress.Steady`), and for addresses without a reference (`Index.owners_follow_pods`). A
reference to a pod of another namespace is followed when the owner is looked up, but nothing is
looked up again when that pod changes (`Index.owner_outlives_pod`).
-/

namespace MeshDestination

open Net Cluster Std

/-! ## Looking up owners -/

/-- The replica set that decides the workload of a pod. -/
def PodState.replicaSet? (pod : PodState) : Option String :=
  match pod.owners with
  | [owner] => if owner.kind = "ReplicaSet" then some owner.name else none
  | _ => none

/-- The deployment that a replica set with these owners gives way to. -/
def Cluster.OwnerRef.deployment? (owners : List OwnerRef) : Option OwnerRef :=
  owners.head?.filter (·.kind = "Deployment")

/-- A reference names a pod, for addresses in a namespace. -/
def Cluster.TargetRef.Names (ref : TargetRef) (ns : String) (key : ObjectKey) : Prop :=
  ref.kind = some "Pod" ∧ ref.ns.getD ns = key.ns ∧ ref.name = some key.name

namespace Pods

variable {p p' : Pods}

/-- Of a replica set only its deployment matters. -/
theorem workload_of_replicaSet (n : PodNamespace) (name : String) {pod : PodState}
    {owner : OwnerRef} (howners : pod.owners = [owner]) (hkind : owner.kind = "ReplicaSet") :
    n.workload name pod = match n.replicaSets[owner.name]?.bind OwnerRef.deployment? with
      | some above => ("deployment", above.name)
      | none => ("replicaset", owner.name) := by
  unfold PodNamespace.workload
  rw [howners]
  simp only [hkind, if_true]
  cases n.replicaSets[owner.name]? with
  | none => rfl
  | some owners =>
    cases owners with
    | nil => rfl
    | cons above _ =>
      by_cases habove : above.kind = "Deployment"
      · simp [OwnerRef.deployment?, Option.filter, habove]
      · simp [OwnerRef.deployment?, Option.filter, habove]

theorem owner_congr {ns name : String} {pod : PodState}
    (h : ∀ rs, pod.replicaSet? = some rs → (p'.replicaSet? ns rs).bind OwnerRef.deployment? =
      (p.replicaSet? ns rs).bind OwnerRef.deployment?) :
    p'.owner ns name pod = p.owner ns name pod := by
  have hworkload : (p'.get ns).workload name pod = (p.get ns).workload name pod := by
    unfold PodState.replicaSet? at h
    match howners : pod.owners with
    | [owner] =>
      by_cases hkind : owner.kind = "ReplicaSet"
      · rw [howners] at h
        have hsame : (p'.get ns).replicaSets[owner.name]?.bind OwnerRef.deployment? =
            (p.get ns).replicaSets[owner.name]?.bind OwnerRef.deployment? :=
          h owner.name (if_pos hkind)
        rw [workload_of_replicaSet _ name howners hkind, hsame,
          workload_of_replicaSet _ name howners hkind]
      · simp only [PodNamespace.workload, howners, hkind, if_false]
    | [] => simp only [PodNamespace.workload, howners]
    | _ :: _ :: _ => simp only [PodNamespace.workload, howners]
  rw [owner, owner, hworkload]

/-- A reference leads to the pod that it names. -/
theorem referenced?_eq_some {ns podNs name : String} {ref : TargetRef} {pod : PodState} :
    p.referenced? ns ref = some (podNs, name, pod) ↔
      ref.Names ns ⟨podNs, name⟩ ∧ p.pod? podNs name = some pod := by
  unfold referenced? Cluster.TargetRef.Names
  by_cases hkind : ref.kind = some "Pod"
  · cases hname : ref.name with
    | none => simp [hkind]
    | some name =>
      cases hpod : p.pod? (ref.ns.getD ns) name with
      | none => simp [hkind, hpod]; grind
      | some pod' => simp [hkind, hpod]; grind
  · simp [hkind]

theorem atIp?_eq_some {ns ns' name : String} {ip : Ip} {pod : PodState} :
    p.atIp? ns ip = some (ns', name, pod) ↔
      ns' = ns ∧ p.nameAt? ns ip = some name ∧ p.pod? ns name = some pod := by
  change ((p.nameAt? ns ip).bind fun name => (p.pod? ns name).bind fun pod =>
    some (ns, name, pod)) = _ ↔ _
  simp only [Option.bind_eq_some_iff, Option.some.injEq, Prod.mk.injEq]
  grind

/-- The pod that is found for an address is known, and the address refers or leads to it. -/
theorem pod?_of_found {ns podNs name : String} {ip : Ip} {ref : Option TargetRef} {pod : PodState}
    (h : (ref.bind (p.referenced? ns)).or (p.atIp? ns ip) = some (podNs, name, pod)) :
    p.pod? podNs name = some pod ∧ ((∃ r, ref = some r ∧ r.Names ns ⟨podNs, name⟩) ∨
      podNs = ns ∧ p.nameAt? ns ip = some name) := by
  rcases Option.or_eq_some_iff.mp h with href | ⟨-, hat⟩
  · obtain ⟨r, hr, href⟩ := Option.bind_eq_some_iff.mp href
    obtain ⟨hnames, hpod⟩ := referenced?_eq_some.mp href
    exact ⟨hpod, .inl ⟨r, hr, hnames⟩⟩
  · obtain ⟨rfl, hname, hpod⟩ := atIp?_eq_some.mp hat
    exact ⟨hpod, .inr ⟨rfl, hname⟩⟩

/-- An address with an owner is referred to a pod that is known, or leads to one. -/
theorem resolve_eq_some {ns : String} {ip : Ip} {ref : Option TargetRef} {w : Owner}
    (h : p.resolve ns ip ref = some w) : ∃ pod, p.pod? w.ns w.pod = some pod ∧
      ((∃ r, ref = some r ∧ r.Names ns ⟨w.ns, w.pod⟩) ∨
        w.ns = ns ∧ p.nameAt? ns ip = some w.pod) := by
  obtain ⟨⟨podNs, name, pod⟩, hfound, rfl⟩ := Option.map_eq_some_iff.mp h
  exact ⟨pod, pod?_of_found hfound⟩

/-- What is seen of an owner depends on the pod that is found, and on what is seen of its workload.
-/
theorem map_resolve_congr {β : Type} {f : Owner → β} {ns : String} {ip : Ip}
    {ref : Option TargetRef}
    (href : ∀ r, ref = some r → p'.referenced? ns r = p.referenced? ns r)
    (hat : p'.atIp? ns ip = p.atIp? ns ip)
    (howner : ∀ w pod, p.resolve ns ip ref = some w → p.pod? w.ns w.pod = some pod →
      f (p'.owner w.ns w.pod pod) = f (p.owner w.ns w.pod pod)) :
    (p'.resolve ns ip ref).map f = (p.resolve ns ip ref).map f := by
  have hfound : (ref.bind (p'.referenced? ns)).or (p'.atIp? ns ip) =
      (ref.bind (p.referenced? ns)).or (p.atIp? ns ip) := by
    rw [hat]
    cases ref with
    | none => rfl
    | some r => rw [Option.bind_some, Option.bind_some, href r rfl]
  cases hw : p.resolve ns ip ref with
  | none =>
    rw [resolve, ← hfound, Option.map_eq_none_iff] at hw
    rw [resolve, hw]
    rfl
  | some w =>
    obtain ⟨⟨podNs, name, pod⟩, hsome, rfl⟩ := Option.map_eq_some_iff.mp hw
    rw [resolve, hfound, hsome]
    exact congrArg some (howner _ pod hw (pod?_of_found hsome).1)

theorem referenced?_congr {ns : String} {r : TargetRef}
    (h : ∀ key, r.Names ns key → p'.pod? key.ns key.name = p.pod? key.ns key.name) :
    p'.referenced? ns r = p.referenced? ns r := by
  apply Option.ext
  rintro ⟨podNs, name, pod⟩
  rw [referenced?_eq_some, referenced?_eq_some]
  exact and_congr_right fun hnames => by rw [h _ hnames]

theorem atIp?_congr {ns : String} {ip : Ip} (hname : p'.nameAt? ns ip = p.nameAt? ns ip)
    (hpod : ∀ name, p.nameAt? ns ip = some name → p'.pod? ns name = p.pod? ns name) :
    p'.atIp? ns ip = p.atIp? ns ip := by
  apply Option.ext
  rintro ⟨podNs, name, pod⟩
  rw [atIp?_eq_some, atIp?_eq_some, hname]
  exact and_congr_right fun _ => and_congr_right fun hat => by rw [hpod name hat]

theorem Alike.resolve (h : Alike p p') (ns : String) (ip : Ip) (ref : Option TargetRef) :
    p'.resolve ns ip ref = p.resolve ns ip ref := by
  have := map_resolve_congr (f := id)
    (fun r (_ : ref = some r) => referenced?_congr fun key _ => (h.pod? key.ns key.name).symm)
    (atIp?_congr (h.nameAt? ns ip).symm fun name _ => (h.pod? ns name).symm)
    (fun w _ _ _ => owner_congr fun rs _ => by rw [h.replicaSet? w.ns rs])
  rwa [Option.map_id, id, id] at this

/-! ### What an operation on a pod affects -/

/-- From `p` to `p'` nothing changes but one pod and where some addresses of its namespace lead,
among them the ones that the pod has before or after. -/
structure Affects (p p' : Pods) (ns name : String) (ips : List Ip) : Prop where
  pod? : ∀ ns' name', ¬(ns = ns' ∧ name = name') → p'.pod? ns' name' = p.pod? ns' name'
  nameAt? : ∀ ns' ip, (ns = ns' → ip ∉ ips) → p'.nameAt? ns' ip = p.nameAt? ns' ip
  replicaSet? : ∀ ns' rs, p'.replicaSet? ns' rs = p.replicaSet? ns' rs
  held : ∀ pod ip, p.pod? ns name = some pod ∨ p'.pod? ns name = some pod → pod.ip = some ip →
    ip ∈ ips

theorem affects_insertPod (p : Pods) (ns name : String) (pod : PodState) :
    Affects p (p.insertPod ns name pod) ns name (p.affectedIps ns name pod) where
  pod? ns' name' h := by rw [pod?_insertPod, if_neg h]
  nameAt? ns' ip h := by
    have hlost : ¬(ns = ns' ∧ pod.ip = some ip) := by
      rintro ⟨hns, hip⟩
      exact h hns (by simp [affectedIps, hip])
    have hgone : ¬(ns = ns' ∧ (p.get ns).lostIp? name pod = some ip ∧
        p.nameAt? ns' ip = some name) := by
      rintro ⟨hns, hip, -⟩
      exact h hns (by simp [affectedIps, hip])
    rw [nameAt?_insertPod, if_neg hlost, if_neg hgone]
  replicaSet? := replicaSet?_insertPod ns name pod
  held := by
    rintro old ip (hold | hnew) hip
    · by_cases hpod : pod.ip = some ip
      · simp [affectedIps, hpod]
      · have hlost := PodNamespace.lostIp?_eq_some.mpr ⟨⟨old, hold, hip⟩, hpod⟩
        simp [affectedIps, hlost]
    · rw [pod?_insertPod, if_pos ⟨rfl, rfl⟩] at hnew
      cases hnew
      simp [affectedIps, hip]

theorem affects_erasePod (hs : p.Sound) (ns name : String) :
    Affects p (p.erasePod ns name) ns name ((p.pod? ns name).bind (·.ip)).toList where
  pod? ns' name' h := by rw [pod?_erasePod hs, if_neg h]
  nameAt? ns' ip h := by
    have hgone : ¬(ns = ns' ∧ (p.pod? ns name).bind (·.ip) = some ip ∧
        p.nameAt? ns' ip = some name) := by
      rintro ⟨hns, hip, -⟩
      exact h hns (by simp [hip])
    rw [nameAt?_erasePod hs, if_neg hgone]
  replicaSet? := replicaSet?_erasePod hs ns name
  held := by
    rintro pod ip (hpod | hpod) hip
    · simp [hpod, hip]
    · rw [pod?_erasePod hs, if_pos ⟨rfl, rfl⟩] at hpod
      cases hpod

/-- The owner of an address stays where the address is not affected and refers to no pod that
changes. -/
theorem Affects.resolve {ns name : String} {ips : List Ip} (h : Affects p p' ns name ips)
    (hs : p.Sound) {ns' : String} {ip : Ip} {ref : Option TargetRef} (hip : ns = ns' → ip ∉ ips)
    (href : ∀ r, ref = some r → r.Names ns' ⟨ns, name⟩ → p'.pod? ns name = p.pod? ns name) :
    p'.resolve ns' ip ref = p.resolve ns' ip ref := by
  have hnamed (r : TargetRef) (hr : ref = some r) (key : ObjectKey) (hkey : r.Names ns' key) :
      p'.pod? key.ns key.name = p.pod? key.ns key.name := by
    by_cases hpod : ns = key.ns ∧ name = key.name
    · obtain ⟨rfl, rfl⟩ := hpod
      exact href r hr hkey
    · exact h.pod? _ _ hpod
  have hat (name' : String) (hname' : p.nameAt? ns' ip = some name') :
      p'.pod? ns' name' = p.pod? ns' name' := by
    apply h.pod?
    rintro ⟨rfl, rfl⟩
    obtain ⟨pod, hpod, hpodip⟩ := hs.pod?_of_nameAt? hname'
    exact hip rfl (h.held pod ip (.inl hpod) hpodip)
  have := map_resolve_congr (f := id) (fun r hr => referenced?_congr (hnamed r hr))
    (atIp?_congr (h.nameAt? ns' ip hip) hat)
    (fun w _ _ _ => owner_congr fun rs _ => by rw [h.replicaSet? w.ns rs])
  rwa [Option.map_id, id, id] at this

end Pods

/-! ## Where an address comes from -/

namespace Cluster.EndpointSubset

/-- The entries of a subset that lead from a target port to an address. -/
def entries (subset : EndpointSubset) (target : TargetPort) (addr : SocketAddr) :
    List EndpointAddress :=
  match Backends.portOf? subset target with
  | some port =>
    subset.addresses.filter fun a =>
      (Ip.ofText? a.ip).map (fun ip => (⟨ip, port.number, 0⟩ : SocketAddr)) = some addr
  | none => []

/-- The entry that an address comes from: of several the last. -/
def source? (subsets : List EndpointSubset) (target : TargetPort) (addr : SocketAddr) :
    Option EndpointAddress := (subsets.flatMap (entries · target addr)).getLast?

theorem lists_of_source? {subsets : List EndpointSubset} {target : TargetPort} {addr : SocketAddr}
    {a : EndpointAddress} (h : source? subsets target addr = some a) :
    Ip.ofText? a.ip = some addr.ip ∧ ∃ subset ∈ subsets, a ∈ subset.addresses := by
  obtain ⟨subset, hsubset, ha⟩ := List.mem_flatMap.mp (List.mem_of_getLast? h)
  unfold entries at ha
  split at ha
  · obtain ⟨hmem, haddr⟩ := List.mem_filter.mp ha
    obtain ⟨ip, hip, rfl⟩ := Option.map_eq_some_iff.mp (of_decide_eq_true haddr)
    exact ⟨hip, subset, hsubset, hmem⟩
  · cases ha

end Cluster.EndpointSubset

namespace Backends

/-- Later entries of an address replace earlier ones. -/
theorem getElem?_foldl_insert (es : List (SocketAddr × Option Owner)) (addr : SocketAddr) :
    ∀ m : AddressMap, (es.foldl (fun m (addr, owner) => m.insert addr owner) m)[addr]? =
      ((es.filter fun e => e.1 = addr).getLast?.map (·.2)).or m[addr]? := by
  induction es with
  | nil => intro m; rfl
  | cons e es ih =>
    intro m
    rw [List.foldl_cons, ih, TreeMap.getElem?_insert, List.filter_cons]
    simp only [LawfulEqCmp.compare_eq_iff_eq]
    by_cases he : e.1 = addr
    · rw [if_pos he, if_pos (decide_eq_true he), List.getLast?_cons]
      cases (es.filter fun e => e.1 = addr).getLast? <;> rfl
    · rw [if_neg he, if_neg (by simpa using he)]

theorem filter_endpointsOf (subset : EndpointSubset) (port : Port) (ns : String) (pods : Pods)
    (addr : SocketAddr) :
    (endpointsOf subset port ns pods).filter (fun e => e.1 = addr) =
      (subset.addresses.filter fun a =>
        (Ip.ofText? a.ip).map (fun ip => (⟨ip, port.number, 0⟩ : SocketAddr)) = some addr).map
        fun a => (addr, pods.resolve ns addr.ip a.targetRef) := by
  unfold endpointsOf
  induction subset.addresses with
  | nil => rfl
  | cons a as ih =>
    rw [List.filterMap_cons, List.filter_cons]
    cases hip : Ip.ofText? a.ip with
    | none => simpa using ih
    | some ip =>
      by_cases haddr : (⟨ip, port.number, 0⟩ : SocketAddr) = addr
      · subst haddr
        simpa using ih
      · simpa [haddr] using ih

/-- The owner that is computed for an address is that of the entry it comes from. -/
theorem getElem?_addrs (b : Backends) (ns : String) (target : TargetPort) (pods : Pods)
    (addr : SocketAddr) :
    (b.addrs ns target pods)[addr]? = (EndpointSubset.source? b.subsets target addr).map
      fun a => pods.resolve ns addr.ip a.targetRef := by
  -- Of all computed pairs, those of the address are its entries with the owners looked up for them.
  have hentries : (b.subsets.flatMap fun subset =>
      match portOf? subset target with
      | some port => endpointsOf subset port ns pods
      | none => []).filter (fun e => e.1 = addr) =
      (b.subsets.flatMap (EndpointSubset.entries · target addr)).map
        fun a => (addr, pods.resolve ns addr.ip a.targetRef) := by
    rw [List.filter_flatMap, List.map_flatMap]
    congr 1
    funext subset
    unfold EndpointSubset.entries
    cases portOf? subset target with
    | none => rfl
    | some port => exact filter_endpointsOf subset port ns pods addr
  rw [addrs, getElem?_foldl_insert]
  refine (congrArg (fun es => (List.getLast? es |>.map (·.2)).or _) hentries).trans ?_
  rw [EndpointSubset.source?, List.getLast?_map, Option.map_map]
  exact Option.or_none

theorem mentions_of_lists {b : Backends} {ips : List Ip} {ip : Ip} {subset : EndpointSubset}
    (hsubset : subset ∈ b.subsets) (hlists : subset.Lists ip) (hip : ip ∈ ips) :
    b.mentions ips = true := by
  obtain ⟨a, ha, haip⟩ := hlists
  rw [mentions, List.any_eq_true]
  refine ⟨subset, hsubset, List.any_eq_true.mpr ⟨a, ha, ?_⟩⟩
  rw [haip]
  exact List.contains_iff_mem.mpr hip

end Backends

/-! ## Owners that stay -/

/-- A pod that the entry refers to is one of the namespace, and whatever is known of it, it has one
of the listed addresses. -/
def Cluster.EndpointAddress.Steady (a : EndpointAddress) (known : ObjectKey → PodState → Prop)
    (ns : String) (subsets : List EndpointSubset) : Prop :=
  ∀ ref key pod, a.targetRef = some ref → ref.Names ns key → known key pod → key.ns = ns ∧
    ∃ ip, pod.ip = some ip ∧ ∃ subset ∈ subsets, subset.Lists ip

variable {β : Type} {f : Owner → β} {known : ObjectKey → PodState → Prop} {ns : String}
variable {pods pods' : Pods} {s s' : ServiceState}

/-- The recorded owners of a port are, as far as `f` sees them, the ones that are found now for the
entries that the addresses come from, if these are steady. -/
def PortState.Fresh (f : Owner → β) (known : ObjectKey → PodState → Prop) (ns : String)
    (pods : Pods) (s : ServiceState) (p : Port) (ps : PortState) : Prop :=
  ∀ addr owner, ps.addrs[addr]? = some owner → ∃ ports b a, s.declared = some ports ∧
    s.backends = some b ∧ EndpointSubset.source? b.subsets (s.targetPort p) addr = some a ∧
    (a.Steady known ns b.subsets → owner.map f = (pods.resolve ns addr.ip a.targetRef).map f)

/-- All ports of a service are fresh. -/
def ServiceState.Fresh (f : Owner → β) (known : ObjectKey → PodState → Prop) (ns : String)
    (pods : Pods) (s : ServiceState) : Prop :=
  ∀ (p : Port) (ps : PortState), s.ports[p]? = some ps → ps.Fresh f known ns pods s p

namespace PortState

theorem Fresh.congr {p : Port} {ps : PortState} (h : ps.Fresh f known ns pods s p)
    (hd : s'.declared = s.declared) (hb : s'.backends = s.backends) :
    ps.Fresh f known ns pods s' p := by
  intro addr owner howner
  obtain ⟨ports, b, a, hports, hbackends, ha, howner⟩ := h addr owner howner
  refine ⟨ports, b, a, hd.trans hports, hb.trans hbackends, ?_, howner⟩
  rwa [ServiceState.targetPort, hd]

theorem fresh_of_addrs_eq_empty {p : Port} {ps : PortState} (h : ps.addrs = {}) :
    ps.Fresh f known ns pods s p := by
  intro addr owner howner
  rw [h, TreeMap.getElem?_emptyc] at howner
  cases howner

/-- Owners that are looked up now are fresh. -/
theorem fresh_portState (s : ServiceState) (p : Port) (n : Nat) :
    (s.portState ns pods p n).Fresh f known ns pods s p := by
  by_cases hpresent : ∃ ports b, s.declared = some ports ∧ s.backends = some b
  · obtain ⟨ports, b, hd, hb⟩ := hpresent
    intro addr owner howner
    have haddrs : (s.portState ns pods p n).addrs = b.addrs ns (s.targetPort p) pods := by
      rw [ServiceState.portState, ServiceState.addrs, hd, hb]
    rw [haddrs, Backends.getElem?_addrs] at howner
    obtain ⟨a, ha, rfl⟩ := Option.map_eq_some_iff.mp howner
    exact ⟨ports, b, a, hd, hb, ha, fun _ => rfl⟩
  · apply fresh_of_addrs_eq_empty
    rw [ServiceState.portState, ServiceState.addrs]
    split
    · next ports b hd hb => exact absurd ⟨ports, b, hd, hb⟩ hpresent
    · rfl

end PortState

namespace ServiceState

theorem fresh_empty : ({} : ServiceState).Fresh f known ns pods := by
  intro p ps h
  rw [show ({} : ServiceState).ports[p]? = none from TreeMap.getElem?_emptyc] at h
  cases h

theorem fresh_refresh (s : ServiceState) (watched : Port → Bool) :
    (s.refresh ns pods watched).Fresh f known ns pods := by
  intro p ps h
  obtain ⟨n, rfl⟩ := portState_of_refresh h
  exact (PortState.fresh_portState s p n).congr rfl rfl

theorem Fresh.port (h : s.Fresh f known ns pods) (p : Port) :
    (s.port ns pods p).Fresh f known ns pods s p := by
  rw [ServiceState.port, TreeMap.getD_eq_getD_getElem?]
  cases hp : s.ports[p]? with
  | none => exact PortState.fresh_portState s p 0
  | some ps => exact h p ps hp

theorem Fresh.change (h : s.Fresh f known ns pods) (hc : Change ns pods s s') :
    s'.Fresh f known ns pods := by
  induction hc with
  | same s => exact h
  | refreshed s state watched _ => exact fresh_refresh state watched
  | cleared s watched =>
    intro p ps hps
    have hps := Option.eq_some_of_filter_eq_some (TreeMap.getElem?_filter'.symm.trans hps)
    rw [withoutResource, TreeMap.getElem?_map] at hps
    obtain ⟨old, -, rfl⟩ := Option.map_eq_some_iff.mp hps
    exact PortState.fresh_of_addrs_eq_empty rfl
  | opened s p n =>
    intro q qs hqs
    rw [TreeMap.getElem?_insert] at hqs
    simp only [LawfulEqCmp.compare_eq_iff_eq] at hqs
    split at hqs
    · next hq =>
      cases hqs
      subst hq
      exact PortState.Fresh.congr (s := s) (h.port p) rfl rfl
    · exact (h q qs hqs).congr rfl rfl
  | dropped s _ _ => exact fresh_empty
  | trans _ _ ih ih' => exact ih' (ih h)

/-- Owners stay fresh while new lookups find the same. -/
theorem Fresh.setPods (h : s.Fresh f known ns pods)
    (hresolve : ∀ b p addr a, s.backends = some b →
      EndpointSubset.source? b.subsets (s.targetPort p) addr = some a →
      a.Steady known ns b.subsets →
      (pods'.resolve ns addr.ip a.targetRef).map f = (pods.resolve ns addr.ip a.targetRef).map f) :
    s.Fresh f known ns pods' := by
  intro p ps hps addr owner howner
  obtain ⟨ports, b, a, hd, hb, ha, howner⟩ := h p ps hps addr owner howner
  exact ⟨ports, b, a, hd, hb, ha, fun hsteady =>
    (howner hsteady).trans (hresolve b p addr a hb ha hsteady).symm⟩

end ServiceState

/-! ## Runs -/

/-- The operation records or forgets a replica set. -/
def Index.Operation.OnReplicaSets : Operation → Prop
  | .apply (.replicaSet _) => True
  | .delete .replicaSet _ _ => True
  | _ => False

theorem Pods.after_of_not_onPods (p : Pods) {op : Index.Operation} (hop : ¬op.OnPods) :
    p.after op = p := by
  unfold Pods.after
  split <;> first | rfl | exact absurd trivial hop

namespace Index

/-- In an index of which only pods in `known` are known, the recorded owners of a service are
fresh. -/
structure Owned (f : Owner → β) (known : ObjectKey → PodState → Prop) (s : ServiceRef)
    (ix : Index) : Prop where
  sound : ix.pods.Sound
  pods_known : ∀ key pod, ix.pods.pod? key.ns key.name = some pod → known key pod
  fresh : (ix.service s).Fresh f known s.ns ix.pods

variable {ix : Index} {s : ServiceRef}

theorem owned_start (c : ClusterInfo) (s : ServiceRef) : (start c).Owned f known s where
  sound := Pods.sound_empty
  pods_known key pod h := by
    rw [show (start c).pods.pod? key.ns key.name = none from TreeMap.getElem?_emptyc] at h
    cases h
  fresh := by
    rw [service_of_none (show (start c).services[s]? = none from TreeMap.getElem?_emptyc)]
    exact ServiceState.fresh_empty

theorem Owned.perform_of_not_onPods (h : ix.Owned f known s) {op : Operation}
    (hop : ¬op.OnPods) : (ix.perform op).Owned f known s := by
  have hpods : (ix.perform op).pods = ix.pods := by
    rw [pods_perform, Pods.after_of_not_onPods _ hop]
  refine ⟨?_, ?_, ?_⟩
  · rw [hpods]
    exact h.sound
  · rw [hpods]
    exact h.pods_known
  · rw [hpods]
    exact h.fresh.change (change_perform ix s hop)

/-- A service that is not computed anew lists no address of the pod, and so no steady entry of it
leads to the pod. -/
theorem Owned.reresolve (h : ix.Owned f known s) {pods : Pods} {ns name : String} {ips : List Ip}
    (ha : ix.pods.Affects pods ns name ips) (hs : pods.Sound)
    (hknown : ∀ key pod, pods.pod? key.ns key.name = some pod → known key pod) :
    (({ ix with pods } : Index).reresolve ns ips).Owned f known s := by
  refine ⟨hs, hknown, ?_⟩
  change ServiceState.Fresh f known s.ns pods _
  rcases service_reresolve { ix with pods } s ns ips with ⟨-, -, -, -, hstate⟩ |
    ⟨hlists, hstate⟩
  · rw [hstate]
    exact ServiceState.fresh_refresh _ _
  · rw [hstate]
    refine h.fresh.setPods fun b p addr a hb hsource hsteady => congrArg _ ?_
    have hunlisted (hns : ns = s.ns) (ip : Ip) (subset : EndpointSubset)
        (hsubset : subset ∈ b.subsets) (hip : subset.Lists ip) : ip ∉ ips := by
      intro hmem
      have hmentions := Backends.mentions_of_lists hsubset hip hmem
      rw [hlists b hb hns.symm] at hmentions
      cases hmentions
    refine ha.resolve h.sound ?_ ?_
    · intro hns
      obtain ⟨haddr, subset, hsubset, hmem⟩ := EndpointSubset.lists_of_source? hsource
      exact hunlisted hns addr.ip subset hsubset ⟨a, hmem, haddr⟩
    · intro ref href hnames
      -- The pod is unknown before and after: it would have an address that the service lists.
      have hunknown (pod : PodState) (hk : known ⟨ns, name⟩ pod)
          (hheld : ∀ ip, pod.ip = some ip → ip ∈ ips) : False := by
        obtain ⟨hns, ip, hip, subset, hsubset, hlisted⟩ := hsteady ref _ pod href hnames hk
        exact hunlisted hns ip subset hsubset hlisted (hheld ip hip)
      have hbefore : ix.pods.pod? ns name = none := Option.eq_none_iff_forall_ne_some.mpr
        fun pod hpod => hunknown pod (h.pods_known ⟨ns, name⟩ pod hpod) fun ip =>
          ha.held pod ip (.inl hpod)
      have hafter : pods.pod? ns name = none := Option.eq_none_iff_forall_ne_some.mpr
        fun pod hpod => hunknown pod (hknown ⟨ns, name⟩ pod hpod) fun ip =>
          ha.held pod ip (.inr hpod)
      rw [hbefore, hafter]

theorem Owned.applyPod (h : ix.Owned f known s) {ns name : String} {pod : PodState}
    (hpod : known ⟨ns, name⟩ pod) : (ix.applyPod ns name pod).Owned f known s := by
  refine h.reresolve (Pods.affects_insertPod _ _ _ _) (h.sound.insertPod _ _ _) ?_
  intro key pod' hpod'
  rw [Pods.pod?_insertPod] at hpod'
  split at hpod'
  · next hkey =>
    cases hpod'
    obtain ⟨rfl, rfl⟩ := hkey
    exact hpod
  · exact h.pods_known key pod' hpod'

theorem Owned.deletePod (h : ix.Owned f known s) (ns name : String) :
    (ix.deletePod ns name).Owned f known s := by
  refine h.reresolve (Pods.affects_erasePod h.sound ns name) (h.sound.erasePod ns name) ?_
  intro key pod hpod
  rw [Pods.pod?_erasePod h.sound] at hpod
  split at hpod
  · cases hpod
  · exact h.pods_known key pod hpod

theorem Operation.onPods_cases {op : Operation} (h : op.OnPods) (hop : ¬op.OnReplicaSets) :
    (∃ o, op = .apply (.pod o)) ∨ ∃ ns name, op = .delete .pod ns name := by
  unfold OnPods at h
  split at h
  · exact .inl ⟨_, rfl⟩
  · exact absurd trivial hop
  · exact .inr ⟨_, _, rfl⟩
  · exact absurd trivial hop
  · exact h.elim

theorem Owned.perform (h : ix.Owned f known s) {op : Operation} (hop : ¬op.OnReplicaSets)
    (hknown : ∀ o key, op = .apply (.pod o) → (Resource.pod o).key? = some key →
      known key (PodState.ofObject o)) : (ix.perform op).Owned f known s := by
  by_cases hpods : op.OnPods
  · rcases Operation.onPods_cases hpods hop with ⟨o, rfl⟩ | ⟨ns, name, rfl⟩
    · change (ix.apply (.pod o)).1.Owned f known s
      unfold apply
      split
      · next name hname =>
        refine h.applyPod (hknown o ⟨_, name⟩ rfl ?_)
        rw [Resource.key?, hname]
        rfl
      · exact h
    · exact h.deletePod ns name
  · exact h.perform_of_not_onPods hpods

/-- What is said of a pod in a run. -/
def Says (ops : List Operation) (key : ObjectKey) (pod : PodState) : Prop :=
  ∃ o, .apply (.pod o) ∈ ops ∧ (Resource.pod o).key? = some key ∧ pod = PodState.ofObject o

theorem owned_run (f : Owner → β) (c : ClusterInfo) {ops : List Operation}
    (hops : ∀ op ∈ ops, ¬op.OnReplicaSets) (s : ServiceRef) :
    ((start c).run ops).Owned f (Says ops) s := by
  refine run_invariant_of (Q := fun op => op ∈ ops ∧ ¬op.OnReplicaSets) ?_ ops
    (fun op hop => ⟨hop, hops op hop⟩) (owned_start c s)
  rintro ix op ⟨hmem, hop⟩ h
  refine h.perform hop ?_
  rintro o key rfl hkey
  exact ⟨o, hmem, hkey, rfl⟩

/-- After every run without operations on replica sets, the owner that is recorded for an address is
what a lookup finds now for the entry that the address comes from, if the entry is steady, and is a
pod that is applied and not deleted since. -/
theorem owners_follow_pods (c : ClusterInfo) {ops : List Operation}
    (hops : ∀ op ∈ ops, ¬op.OnReplicaSets) {s : ServiceRef} {p : Port} {ps : PortState}
    (hps : ((start c).run ops).port? (s, p) = some ps) {addr : SocketAddr} {owner : Option Owner}
    (howner : ps.addrs[addr]? = some owner) :
    ∃ o e a, appliedService ops s = some o ∧ appliedEndpoints ops s = some e ∧
      EndpointSubset.source? e.subsets (o.targetPort p) addr = some a ∧
      (a.Steady (Says ops) s.ns e.subsets →
        owner = ((start c).run ops).pods.resolve s.ns addr.ip a.targetRef ∧
        ∀ w, owner = some w → ∃ pod, appliedPod ops ⟨w.ns, w.pod⟩ = some pod) := by
  have htracks := tracks_applied c ops s
  have hkept : (((start c).run ops).service s).ports[p]? = some ps :=
    (getElem?_ports_service _ (s, p)).trans hps
  obtain ⟨ports, b, a, hd, hb, hsource, hfresh⟩ :=
    (owned_run id c hops s).fresh p ps hkept addr owner howner
  obtain ⟨o, ho, -⟩ := Option.map_eq_some_iff.mp (htracks.declared.symm.trans hd)
  obtain ⟨e, he, rfl⟩ := Option.map_eq_some_iff.mp (htracks.backends.symm.trans hb)
  rw [ho] at htracks
  rw [htracks.targetPort] at hsource
  refine ⟨o, e, a, ho, he, hsource, fun hsteady => ?_⟩
  have hresolve := hfresh hsteady
  rw [Option.map_id, id, id] at hresolve
  refine ⟨hresolve, ?_⟩
  rintro w rfl
  obtain ⟨pod, hpod, -⟩ := Pods.resolve_eq_some hresolve.symm
  have happlied := pod?_run c ops ⟨w.ns, w.pod⟩
  rw [hpod] at happlied
  obtain ⟨object, hobject, -⟩ := Option.map_eq_some_iff.mp happlied.symm
  exact ⟨object, hobject⟩

end Index

namespace Sample

/-- A pod that has the address of the endpoints resource. -/
def pod (ns : String) : PodObject :=
  ⟨{ name := some "web-0", ns := some ns }, some "10.0.0.1", some "Running"⟩

/-- A reference to the pod of that name in a namespace. -/
def podRef (ns : String) : TargetRef := ⟨some "Pod", some ns, some "web-0"⟩

/-- An endpoints resource whose address refers to the pod of a namespace. -/
def referring (ns : String) : EndpointsObject :=
  { endpoints with subsets := [⟨[⟨"10.0.0.1", some (podRef ns)⟩], [⟨none, 80⟩]⟩] }

end Sample

namespace Index

/-- The pod of an address is deleted, and the address has no owner any more. -/
theorem owners_follow_pods_web :
    let ops := [.apply (.pod (Sample.pod "ns")), .apply (.service Sample.service),
      .apply (.endpoints (Sample.referring "ns")), .delete .pod "ns" "web-0"]
    ∃ ps owner, ((start {}).run ops).port? (Sample.web, .http) = some ps ∧
      ps.addrs[Sample.backend]? = some owner ∧
      owner = ((start {}).run ops).pods.resolve "ns" Sample.backend.ip
        (some (Sample.podRef "ns")) := by
  intro ops
  have hkept : (((start {}).run ops).port? (Sample.web, .http)).isSome = true := by decide +kernel
  obtain ⟨ps, hps⟩ := Option.isSome_iff_exists.mp hkept
  have hrecorded : (((start {}).run ops).port? (Sample.web, .http)).bind
      (·.addrs[Sample.backend]?) = some none := by decide +kernel
  have howner : ps.addrs[Sample.backend]? = some none := by rwa [hps] at hrecorded
  have hops : ∀ op ∈ ops, ¬op.OnReplicaSets := by
    simp [ops, Operation.OnReplicaSets]
  obtain ⟨o, e, a, ho, he, ha, hfresh⟩ := owners_follow_pods {} hops hps howner
  cases ho
  cases he
  have hsource : EndpointSubset.source? (Sample.referring "ns").subsets
      (Sample.service.targetPort .http) Sample.backend =
      some ⟨"10.0.0.1", some (Sample.podRef "ns")⟩ := by decide +kernel
  cases ha.symm.trans hsource
  refine ⟨ps, none, hps, howner, (hfresh ?_).1⟩
  rintro ref key pod href hnames ⟨object, hobject, -, rfl⟩
  cases href
  have hobject : object = Sample.pod "ns" := by simpa [ops] using hobject
  subst hobject
  exact ⟨hnames.2.1.symm, Sample.backend.ip, by decide +kernel, _, List.mem_singleton_self _, _,
    List.mem_singleton_self _, by decide +kernel⟩

/-- An address that refers to a pod of another namespace is still recorded as owned by the pod after
the pod is deleted, although a lookup finds no owner any more. -/
theorem owner_outlives_pod :
    let ops := [.apply (.pod (Sample.pod "other")), .apply (.service Sample.service),
      .apply (.endpoints (Sample.referring "other")), .delete .pod "other" "web-0"]
    (∀ op ∈ ops, ¬op.OnReplicaSets) ∧
    (((start {}).run ops).port? (Sample.web, .http)).bind (·.addrs[Sample.backend]?) =
      some (some ⟨"other", "web-0", "pod", "web-0"⟩) ∧
    EndpointSubset.source? (Sample.referring "other").subsets
      (Sample.service.targetPort .http) Sample.backend =
      some ⟨"10.0.0.1", some (Sample.podRef "other")⟩ ∧
    ((start {}).run ops).pods.resolve "ns" Sample.backend.ip (some (Sample.podRef "other")) =
      none ∧
    appliedPod ops ⟨"other", "web-0"⟩ = none := by
  intro ops
  have hops : ∀ op ∈ ops, ¬op.OnReplicaSets := by
    simp [ops, Operation.OnReplicaSets]
  refine ⟨hops, ?_, ?_, ?_, rfl⟩ <;> decide +kernel

end Index

end MeshDestination
