import MeshDestination.Proofs.Discovery.Get
import MeshDestination.Proofs.Index.Owners
import MeshDestination.Proofs.Traffic.PodLabels

/-!
# Labels that clients are given

Clients count their traffic to an address under the labels that they were sent with it. Every
address that a client of endpoints is sent is that of an endpoint that its subscription was told of,
with the labels of the endpoint's owner. These name the top-level workload of the pod by the name of
its kind, which is the label that selectors of traffic ask for, unless the workload is a job
(`Server.sent_labels`).
-/

namespace MeshDestination

open Cluster Std

/-! ## Workloads -/

/-- The workload behind a pod whose only owner is `o`, of the kind `k`. A replica set gives way to
its deployment. -/
def Pods.topLevel (p : Pods) (ns : String) (o : OwnerRef) (k : Traffic.Kind) :
    Traffic.Kind × String :=
  if o.kind = "ReplicaSet" then
    match (p.replicaSet? ns o.name).bind OwnerRef.deployment? with
    | some above => (.deployment, above.name)
    | none => (k, o.name)
  else (k, o.name)

section Workloads

variable {p : Pods} {ns name : String} {pod : PodState} {o : OwnerRef} {k : Traffic.Kind}

theorem Pods.topLevel_mem (hk : k ∈ Traffic.Kind.workloads) :
    (p.topLevel ns o k).1 ∈ Traffic.Kind.workloads := by
  have hdeployment : Traffic.Kind.deployment ∈ Traffic.Kind.workloads := by decide
  unfold topLevel
  split
  · split
    · exact hdeployment
    · exact hk
  · exact hk

/-- An owner that is looked up names the workload by the name of its kind. -/
theorem Pods.owner_of_single (howners : pod.owners = [o]) (hkind : Text.lowercase o.kind = k.name) :
    p.owner ns name pod =
      { ns, pod := name, kind := (p.topLevel ns o k).1.name, name := (p.topLevel ns o k).2 } := by
  have hworkload : (p.get ns).workload name pod =
      ((p.topLevel ns o k).1.name, (p.topLevel ns o k).2) := by
    by_cases hset : o.kind = "ReplicaSet"
    · have hname : k.name = "replicaset" := by
        rw [← hkind, hset]
        decide +kernel
      rw [workload_of_replicaSet _ name howners hset, topLevel, if_pos hset]
      change (match (p.replicaSet? ns o.name).bind OwnerRef.deployment? with
        | some above => ("deployment", above.name)
        | none => ("replicaset", o.name)) = _
      cases (p.replicaSet? ns o.name).bind OwnerRef.deployment? with
      | none => rw [← hname]
      | some above => rfl
    · rw [PodNamespace.workload, howners, topLevel, if_neg hset]
      simp only [hset, if_false, hkind]
  rw [owner, hworkload]

end Workloads

/-- The pod of the small cluster, with one owner. -/
def Sample.podOf (o : OwnerRef) : PodObject :=
  { pod "ns" with meta_ := { name := some "web-0", ns := some "ns", owners := [o] } }

namespace Discovery

open Traffic (Selection destinationLabels namespaceLabel)

/-! ## Labels of destinations -/

/-- The labels under which clients count their traffic to an address: those of the message and those
of the address, each as a label of the destination. -/
def WeightedAddr.metric (labels : List (String × String)) (w : WeightedAddr) :
    List (String × String) :=
  (labels ++ w.labels).map fun l => ("dst_" ++ l.1, l.2)

/-- Traffic to an address has the labels that a selector asks for. -/
def WeightedAddr.Meets (labels : List (String × String)) (w : WeightedAddr)
    (selector : Traffic.LabelSet) : Prop :=
  ∀ name value, selector[name]? = some value → (name, value) ∈ w.metric labels

section Selectors

variable {s : Selection} {service : ServiceRef} {w : WeightedAddr}

/-- A selector of a named destination asks for the namespace, and for the name. -/
theorem getElem?_destinationLabels (hname : s.name ≠ "") (hk : s.kind.isResource = true)
    (label : String) :
    (destinationLabels s)[label]? =
      if s.asksNamespace = true ∧ "dst_" ++ namespaceLabel = label then some s.ns
      else if "dst_" ++ s.kind.label = label then some s.name else none := by
  have hnonempty : s.name.isEmpty = false := by simpa using hname
  rw [destinationLabels, hnonempty, if_neg Bool.false_ne_true, if_pos hk, Traffic.merge_labelIf]
  cases s.asksNamespace
  · simp [Traffic.getElem?_labelIf]
  · simp [TreeMap.getElem?_insert, Traffic.getElem?_labelIf]

theorem mem_metric {labels : List (String × String)} {label value : String} :
    ("dst_" ++ label, value) ∈ w.metric labels ↔
      (label, value) ∈ labels ∨ (label, value) ∈ w.labels := by
  rw [← List.mem_append, WeightedAddr.metric, List.mem_map]
  constructor
  · rintro ⟨⟨label', value'⟩, hmem, heq⟩
    obtain ⟨hlabel, rfl⟩ := Prod.mk.inj heq
    obtain rfl := String.append_right_inj _ |>.mp hlabel
    exact hmem
  · exact fun hmem => ⟨_, hmem, rfl⟩

/-- Traffic to an address of a service has the labels of a workload's selector, in the service's
namespace or in any, if and only if the address has the label of the workload. -/
theorem meets_destinationLabels (hname : s.name ≠ "") (hk : s.kind ∈ Traffic.Kind.workloads)
    (hns : s.ns = "" ∨ s.ns = service.ns) :
    w.Meets (serviceLabels service) (destinationLabels s) ↔ (s.kind.label, s.name) ∈ w.labels := by
  have hfacts : ∀ k ∈ Traffic.Kind.workloads, k.isResource = true ∧ k ≠ .ns ∧
      k.label ≠ "namespace" ∧ k.label ≠ "service" := by decide
  obtain ⟨hresource, hkind, hnamespace, hservice⟩ := hfacts s.kind hk
  have hservices : (s.kind.label, s.name) ∉ serviceLabels service := by
    simp [serviceLabels, hnamespace, hservice]
  have hgetElem := getElem?_destinationLabels hname hresource
  constructor
  · intro h
    have hother : ¬(s.asksNamespace = true ∧ "dst_" ++ namespaceLabel = "dst_" ++ s.kind.label) :=
      fun ⟨_, hlabel⟩ => hnamespace (String.append_right_inj _ |>.mp hlabel).symm
    have hmem := h ("dst_" ++ s.kind.label) s.name (by rw [hgetElem, if_neg hother, if_pos rfl])
    exact (mem_metric.mp hmem).resolve_left hservices
  · intro hlabel name value hvalue
    rw [hgetElem] at hvalue
    split at hvalue
    · next h =>
      obtain ⟨hasks, rfl⟩ := h
      cases hvalue
      have hempty : s.ns ≠ "" := fun hempty => Traffic.asksNamespace_iff.mp hasks (.inr hempty)
      rw [mem_metric, hns.resolve_left hempty]
      exact .inl List.mem_cons_self
    · split at hvalue
      · next h =>
        cases hvalue
        subst h
        exact mem_metric.mpr (.inr hlabel)
      · cases hvalue

end Selectors

/-! ## Addresses that clients are sent -/

/-- Addresses that are to be added come from an event that adds endpoints. -/
theorem Update.add_mem_ofEvent {service : ServiceRef} {event : EndpointsEvent}
    {addrs : List WeightedAddr} {labels : List (String × String)}
    (h : .add addrs labels ∈ Update.ofEvent service event) :
    ∃ added removed, event = .update added removed ∧
      addrs = added.map WeightedAddr.ofEndpoint ∧ labels = serviceLabels service := by
  cases event with
  | noEndpoints exists_ => simp [Update.ofEvent] at h
  | update added removed =>
    refine ⟨added, removed, rfl, ?_⟩
    rw [Update.ofEvent, List.mem_append] at h
    rcases h with h | h
    · split at h
      · cases h
      · simp at h
    · split at h
      · cases h
      · simpa using h

/-- An address with a workload of a kind has the name of the pod, and that of the workload under the
name of its kind. -/
theorem labels_ofEndpoint {addr : Net.SocketAddr} {ns name workload : String} {k : Traffic.Kind}
    (hk : k ∈ Traffic.Kind.workloads) :
    (WeightedAddr.ofEndpoint ⟨addr, some ⟨ns, name, k.name, workload⟩⟩).labels =
      [("pod", name), (k.name, workload)] := by
  have hpod : ∀ k ∈ Traffic.Kind.workloads, k.name ≠ "pod" := by decide
  simp [WeightedAddr.ofEndpoint, ownerLabels, hpod k hk]

/-- The name of a kind is its label, but for jobs. -/
theorem label_mem_iff {name workload : String} {k : Traffic.Kind}
    (hk : k ∈ Traffic.Kind.workloads) :
    (k.label, workload) ∈ [("pod", name), (k.name, workload)] ↔ k ≠ .job := by
  have hlabels : ∀ k ∈ Traffic.Kind.workloads, k.label ≠ "pod" ∧ (k.label = k.name ↔ k ≠ .job) := by
    decide
  obtain ⟨hpod, hname⟩ := hlabels k hk
  simp [hpod, hname]

namespace Server

/-- In every run, an address that a client of endpoints was sent is that of an endpoint that its
subscription was told of. If the owner of the endpoint was looked up for a pod whose only owner is
of a kind that has the name of a kind of workload, then the labels of the address are the name of
the pod and, under the name of its kind, the name of the workload to which the pod belongs. Under
the label of its kind the workload is named, and traffic to the address has the labels that
selectors of the workload ask for, if and only if it is no job. -/
theorem sent_labels (c : ClusterInfo) (ops : List Operation) {stream : Stream Update}
    (hstream : stream ∈ ((start c).run ops).endpointStreams) {addrs : List WeightedAddr}
    {labels : List (String × String)} (hsent : .add addrs labels ∈ stream.sent) {w : WeightedAddr}
    (hw : w ∈ addrs) :
    ∃ sub added removed e,
      ((start c).run ops).index.endpointSubs.find? stream.listener.ticket = some sub ∧
      .update added removed ∈ sub.log ∧ e ∈ added ∧ w.addr = e.addr ∧
      ∀ (p : Pods) (ns name : String) (pod : PodState) (o : OwnerRef) (k : Traffic.Kind),
        e.owner = some (p.owner ns name pod) → pod.owners = [o] → k ∈ Traffic.Kind.workloads →
        Text.lowercase o.kind = k.name →
        let workload := p.topLevel ns o k
        w.labels = [("pod", name), (workload.1.name, workload.2)] ∧
        ((workload.1.label, workload.2) ∈ w.labels ↔ workload.1 ≠ .job) ∧
        ∀ selected : Selection, selected.kind = workload.1 → selected.name = workload.2 →
          selected.name ≠ "" → selected.ns = "" ∨ selected.ns = sub.topic.1.ns →
          (w.Meets labels (destinationLabels selected) ↔ workload.1 ≠ .job) := by
  have hrun := (Attached.run ops (attached_start c)).attached
  obtain ⟨sub, hsub, hfollows⟩ := hrun.streams _ (List.mem_map_of_mem hstream)
  have hread := (Stream.sent_prefix hfollows).subset hsent
  obtain ⟨event, hevent, hadd⟩ := List.mem_flatMap.mp hread
  obtain ⟨added, removed, rfl, rfl, rfl⟩ := Update.add_mem_ofEvent hadd
  obtain ⟨e, he, rfl⟩ := List.mem_map.mp hw
  refine ⟨sub, added, removed, e, hsub, hevent, he, rfl, ?_⟩
  intro p ns name pod o k howner howners hk hkind workload
  have hworkload : workload.1 ∈ Traffic.Kind.workloads := Pods.topLevel_mem hk
  have hlabels : (WeightedAddr.ofEndpoint e).labels =
      [("pod", name), (workload.1.name, workload.2)] := by
    obtain ⟨addr, owner⟩ := e
    obtain rfl : owner = some (p.owner ns name pod) := howner
    rw [Pods.owner_of_single howners hkind]
    exact labels_ofEndpoint hworkload
  have hlabel : (workload.1.label, workload.2) ∈ (WeightedAddr.ofEndpoint e).labels ↔
      workload.1 ≠ .job := by
    rw [hlabels]
    exact label_mem_iff hworkload
  refine ⟨hlabels, hlabel, fun selected hselected hname hne hns => ?_⟩
  rw [meets_destinationLabels hne (hselected ▸ hworkload) hns, hselected, hname]
  exact hlabel

/-- A client asks for a port with one endpoint, whose pod has one owner, and takes a message. -/
def askingFor (o : OwnerRef) : List Operation :=
  [.apply (.pod (Sample.podOf o)), .apply (.service Sample.service),
    .apply (.endpoints Sample.endpoints), .get "web.ns.svc.cluster.local:80",
    .turnStream .get 0 false, .turnStream .get 0 true, .next .get 0]

/-- The pod of a stateful set. -/
theorem sent_labels_statefulSet :
    let o : OwnerRef := ⟨"StatefulSet", "vote"⟩
    let w : WeightedAddr := ⟨Sample.backend, 10000, [("pod", "web-0"), ("statefulset", "vote")]⟩
    let stream : Stream Update := { listener := {
      ticket := 0, room := some 10, taken := [.add [w] (serviceLabels Sample.web)] } }
    stream ∈ ((start {}).run (askingFor o)).endpointStreams ∧
      .add [w] (serviceLabels Sample.web) ∈ stream.sent ∧
      (Traffic.Kind.statefulSet.label, "vote") ∈ w.labels ∧
      w.Meets (serviceLabels Sample.web) (destinationLabels ⟨.statefulSet, "ns", "vote"⟩) := by
  intro o w stream
  have hstream : stream ∈ ((start {}).run (askingFor o)).endpointStreams := by decide +kernel
  have hsent : .add [w] (serviceLabels Sample.web) ∈ stream.sent := List.mem_singleton.mpr rfl
  have hfound : ((start {}).run (askingFor o)).index.endpointSubs.find? stream.listener.ticket =
      some {
        topic := (Sample.web, .http), number := 0, ticket := 0, capacity := 100
        received := [.update [⟨Sample.backend, some ⟨"ns", "web-0", "statefulset", "vote"⟩⟩] []]
        queue := [] } := by decide +kernel
  obtain ⟨sub, added, removed, e, hsub, hevent, he, -, hlabels⟩ :=
    sent_labels {} (askingFor o) hstream hsent (List.mem_singleton.mpr rfl)
  cases hfound.symm.trans hsub
  cases List.mem_singleton.mp hevent
  cases List.mem_singleton.mp he
  obtain ⟨-, hlabel, hmeets⟩ := hlabels ((start {}).run (askingFor o)).index.pods "ns" "web-0"
    (PodState.ofObject (Sample.podOf o)) o .statefulSet (by decide +kernel) rfl (by decide)
    (by decide +kernel)
  have hworkload : ((start {}).run (askingFor o)).index.pods.topLevel "ns" o .statefulSet =
      (.statefulSet, "vote") := by decide +kernel
  rw [hworkload] at hlabel hmeets
  exact ⟨hstream, hsent, hlabel.mpr (by decide),
    (hmeets ⟨.statefulSet, "ns", "vote"⟩ rfl rfl (by decide) (.inr rfl)).mpr (by decide)⟩

/-- The address of a pod of a job lacks the label of jobs, which selectors of the job ask for. -/
theorem job_label_not_sent :
    let o : OwnerRef := ⟨"Job", "vote"⟩
    let s := (start {}).run (askingFor o)
    let w : WeightedAddr := ⟨Sample.backend, 10000, [("pod", "web-0"), ("job", "vote")]⟩
    Text.lowercase o.kind = Traffic.Kind.job.name ∧ Traffic.Kind.job ∈ Traffic.Kind.workloads ∧
      (s.index.pods.pod? "ns" "web-0").map (·.owners) = some [o] ∧
      (s.index.port? (Sample.web, .http)).bind (·.addrs[Sample.backend]?) =
        some ((s.index.pods.pod? "ns" "web-0").map (s.index.pods.owner "ns" "web-0")) ∧
      (∃ stream ∈ s.endpointStreams, .add [w] (serviceLabels Sample.web) ∈ stream.sent) ∧
      (Traffic.Kind.job.label, "vote") ∉ w.labels ∧
      ¬w.Meets (serviceLabels Sample.web) (destinationLabels ⟨.job, "ns", "vote"⟩) := by
  intro o s w
  have hlabel : (Traffic.Kind.job.label, "vote") ∉ w.labels := by decide
  have hmeets : w.Meets (serviceLabels Sample.web) (destinationLabels ⟨.job, "ns", "vote"⟩) ↔
      (Traffic.Kind.job.label, "vote") ∈ w.labels :=
    meets_destinationLabels (by decide) (by decide) (.inr rfl)
  exact ⟨by decide +kernel, by decide, by decide +kernel, by decide +kernel, by decide +kernel,
    hlabel, fun hw => hlabel (hmeets.mp hw)⟩

end Server

end Discovery

end MeshDestination
