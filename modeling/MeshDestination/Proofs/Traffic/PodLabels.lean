import MeshDestination.Proofs.Traffic.PodCounts

/-!
# Pods and their labels are selected alike

The metrics of a pod carry its namespace, its name and, by the kind, its workload as labels. A
selection selects a pod if and only if a query with the selection's labels finds the pod's metrics
and groups them by labels that they have; the samples that such a query brings belong to the row in
which the pod is counted (`selects_iff_labels`). Both rest on one fact, that the label for a kind
holds the name of a pod's row (`PodOwner.label?_label`).
-/

namespace MeshDestination.Traffic

open Std

/-! ## Labels of pods -/

/-- The kinds of workload that own pods. -/
def Kind.workloads : List Kind :=
  [.daemonSet, .deployment, .job, .replicationController, .replicaSet, .statefulSet]

theorem Kind.hasPods_cases {k : Kind} (hk : k.hasPods = true) :
    k = .ns ∨ k = .pod ∨ k ∈ workloads ∧ k ≠ .ns ∧ k ≠ .pod := by
  revert hk
  cases k <;> decide

namespace PodOwner

/-- The labels of a pod's metrics. -/
def metric (pod : PodOwner) : List (String × String) :=
  [(namespaceLabel, pod.ns), ("pod", pod.name)] ++
    (Kind.workloads.filter fun k => k.name = pod.ownerKind).map fun k => (k.label, pod.ownerName)

/-- The value of a label. -/
def label? (pod : PodOwner) (name : String) : Option String :=
  (pod.metric.find? (·.1 == name)).map (·.2)

/-- The labels have the values that a selector asks for. -/
def Meets (pod : PodOwner) (labels : LabelSet) : Prop :=
  ∀ name value, labels[name]? = some value → pod.label? name = some value

/-- Whether a pod belongs to something of a kind. -/
def isOf (pod : PodOwner) (k : Kind) : Bool := k = .ns || k = .pod || k.name = pod.ownerKind

variable {pod : PodOwner} {k : Kind}

theorem label?_namespace : pod.label? namespaceLabel = some pod.ns := rfl

/-- The label for a kind of workload is there for pods with such an owner. -/
theorem label?_workload (hk : k ∈ Kind.workloads) :
    pod.label? k.label = if k.name = pod.ownerKind then some pod.ownerName else none := by
  have hfront : ∀ k ∈ Kind.workloads, (namespaceLabel == k.label) = false ∧
      ("pod" == k.label) = false := by decide
  have hname : ∀ k ∈ Kind.workloads, (Kind.workloads.filter fun l => l.name = k.name) = [k] := by
    decide
  have hlabel : ∀ k ∈ Kind.workloads, ∀ l ∈ Kind.workloads, l.label = k.label → l = k := by decide
  have hmetric : pod.label? k.label = (((Kind.workloads.filter fun l => l.name = pod.ownerKind).map
      fun l => (l.label, pod.ownerName)).find? (·.1 == k.label)).map (·.2) := by
    simp [label?, metric, hfront k hk]
  rw [hmetric]
  split
  · next h => simp [← h, hname k hk]
  · next h =>
    rw [Option.map_eq_none_iff, List.find?_eq_none]
    intro label hmem hequal
    obtain ⟨l, hl, rfl⟩ := List.mem_map.mp hmem
    obtain ⟨hmem, howner⟩ := List.mem_filter.mp hl
    obtain rfl := hlabel k hk l hmem (eq_of_beq hequal)
    exact h (of_decide_eq_true howner)

/-- The label for a kind holds the name of the row in which a pod is counted. -/
theorem label?_label (hk : k.hasPods = true) :
    pod.label? k.label = if pod.isOf k then some (podRowName k pod) else none := by
  obtain rfl | rfl | ⟨hworkload, hns, hpod⟩ := Kind.hasPods_cases hk
  · rfl
  · rfl
  · have hname : podRowName k pod = pod.ownerName := by
      cases k <;> first | rfl | contradiction
    rw [label?_workload hworkload, hname]
    simp [isOf, hns, hpod]

end PodOwner

/-! ## Selections -/

theorem wishMet_iff {wish actual : String} :
    wishMet wish actual = true ↔ wish = "" ∨ wish = actual := by
  simp [wishMet]

/-- What is selected is asked for by kind, namespace and name. -/
theorem selects_iff {s : Selection} {pod : PodOwner} (hk : s.kind.hasPods = true) :
    s.selects pod = true ↔ pod.isOf s.kind = true ∧ (s.kind = .ns ∨ s.ns = "" ∨ s.ns = pod.ns) ∧
      (s.name = "" ∨ s.name = podRowName s.kind pod) := by
  obtain ⟨k, ns, name⟩ := s
  cases k <;>
    simp [Selection.selects, PodOwner.isOf, podRowName, wishMet_iff, Kind.hasPods] at hk ⊢
  all_goals exact and_assoc.trans and_left_comm

/-! ## Selectors -/

section Selectors

variable {s : Selection} {pod : PodOwner}

theorem merge_labelIf (s : LabelSet) (condition : Bool) (name value : String) :
    s.merge (labelIf condition name value) = if condition then s.insert name value else s := by
  cases condition <;> rfl

theorem getElem?_labelIf (condition : Bool) (label name value : String) :
    (labelIf condition label value)[name]? =
      if condition = true ∧ label = name then some value else none := by
  cases condition <;> simp [labelIf, TreeMap.getElem?_insert]

/-- A selector asks for the namespace, and for the name. -/
theorem getElem?_queryLabels (s : Selection) (name : String) :
    (queryLabels s)[name]? =
      if s.asksNamespace = true ∧ namespaceLabel = name then some s.ns
      else if (!s.name.isEmpty && s.kind ≠ .service) = true ∧ s.kind.label = name then some s.name
      else none := by
  rw [queryLabels, merge_labelIf]
  cases s.asksNamespace
  · simp [getElem?_labelIf]
  · simp [TreeMap.getElem?_insert, getElem?_labelIf]

theorem asksNamespace_iff : s.asksNamespace = true ↔ ¬ (s.kind = .ns ∨ s.ns = "") := by
  simp [Selection.asksNamespace]

theorem label_eq_namespaceLabel {k : Kind} (h : namespaceLabel = k.label) : k = .ns := by
  revert h
  cases k <;> decide

theorem meets_queryLabels (hk : s.kind.hasPods = true) :
    pod.Meets (queryLabels s) ↔ (s.kind = .ns ∨ s.ns = "" ∨ s.ns = pod.ns) ∧
      (s.name = "" ∨ pod.label? s.kind.label = some s.name) := by
  have hservice : s.kind ≠ .service := (Kind.hasPods_iff.mp hk).2.1
  constructor
  · refine fun h => ⟨?_, ?_⟩
    · by_cases hns : s.asksNamespace = true
      · have hvalue := h namespaceLabel s.ns (by rw [getElem?_queryLabels, if_pos ⟨hns, rfl⟩])
        exact .inr (.inr (Option.some.inj hvalue).symm)
      · exact (not_not.mp (mt asksNamespace_iff.mpr hns)).imp_right .inl
    · refine or_iff_not_imp_left.mpr fun hname => h _ _ ?_
      have hother : ¬ (s.asksNamespace = true ∧ namespaceLabel = s.kind.label) :=
        fun ⟨hns, hlabel⟩ => asksNamespace_iff.mp hns (.inl (label_eq_namespaceLabel hlabel))
      rw [getElem?_queryLabels, if_neg hother, if_pos ⟨by simp [hname, hservice], rfl⟩]
  · rintro ⟨hns, hname⟩ name value hvalue
    rw [getElem?_queryLabels] at hvalue
    split at hvalue
    · next h =>
      obtain ⟨hasks, rfl⟩ := h
      rcases hns with hkind | hempty | hequal
      · exact absurd (.inl hkind) (asksNamespace_iff.mp hasks)
      · exact absurd (.inr hempty) (asksNamespace_iff.mp hasks)
      · rw [← hvalue, hequal, PodOwner.label?_namespace]
    · split at hvalue
      · next h =>
        obtain ⟨hasks, rfl⟩ := h
        rcases hname with hempty | hlabel
        · simp [hempty] at hasks
        · rw [hlabel, hvalue]
      · cases hvalue

/-- A pod has the labels to group by if it belongs to something of the kind. -/
theorem isSome_groupLabels {k : Kind} (hk : k.hasPods = true) :
    (∀ name ∈ groupLabels k, (pod.label? name).isSome = true) ↔ pod.isOf k = true := by
  have hlabel : (pod.label? k.label).isSome = true ↔ pod.isOf k = true := by
    rw [PodOwner.label?_label hk]
    split
    · next h => simp [h]
    · next h => simp [h]
  rw [← hlabel, groupLabels, List.forall_mem_cons]
  split
  · next h =>
    subst h
    exact ⟨fun h => h.1, fun h => ⟨h, nofun⟩⟩
  · rw [List.forall_mem_singleton]
    exact ⟨fun h => h.2, fun h => ⟨rfl, h⟩⟩

/-- A sample that agrees with a pod on the labels to group by belongs to the pod's row. -/
theorem isOf_of_agree {k : Kind} {sample : Sample} (hk : k.hasPods = true)
    (hof : pod.isOf k = true)
    (hagree : ∀ name ∈ groupLabels k, sample.label? name = pod.label? name) :
    sample.IsOf k pod.ns (podRowName k pod) := by
  have hns : sample.label? namespaceLabel = some pod.ns := hagree _ List.mem_cons_self
  refine ⟨hns, ?_⟩
  by_cases hkind : k = .ns
  · subst hkind
    exact hns
  · have hmem : k.label ∈ groupLabels k := by simp [groupLabels, hkind]
    rw [hagree _ hmem, PodOwner.label?_label hk, if_pos hof]

end Selectors

/-! ## Rows -/

section Rows

variable {s : Selection} {pod : PodOwner} {meshed : MeshedPods}

theorem keys_podRows_singleton (h : s.selects pod = true) (meshed : MeshedPods) :
    (podRows s [pod] meshed).keys = [pod.row s.kind] := by
  refine List.perm_singleton.mp ((List.perm_ext_iff_of_nodup (SummaryRows.nodup_keys _)
    (List.nodup_singleton _)).mpr fun key => ?_)
  have hpods : rowPods s key.1 key.2 [pod] = [] ↔ pod.row s.kind ≠ key := by
    simp [rowPods, h]
  rw [SummaryRows.mem_keys, row?_podRows, List.mem_singleton]
  split
  · next hnil => simpa using (hpods.mp hnil).symm
  · next hcons => simpa using (not_not.mp (mt hpods.mpr hcons)).symm

/-- A sample of a row that is there adds no row. -/
theorem keys_addStats?_of_isOf {k : Kind} {rows rows' : SummaryRows} {ns name : String}
    {sample : Sample} {key : QueryKey} (hof : sample.IsOf k ns name)
    (hrow : (rows.row? ns name).isSome = true)
    (h : addStats? k rows [(key, [sample])] = some rows') : rows'.keys = rows.keys := by
  refine SummaryRows.keys_ext fun ns' name' => ?_
  obtain ⟨_, -, hrow'⟩ := SummaryRows.row?_addStats? h ns' name'
  rw [hrow']
  split
  · rfl
  · next hsamples =>
    have hof' : sample.IsOf k ns' name' := by
      by_contra hother
      exact hsamples (List.filter_cons_of_neg (by simpa using hother))
    rw [← Option.some.inj (hof.1.symm.trans hof'.1), ← Option.some.inj (hof.2.symm.trans hof'.2),
      hrow, Option.isSome_some]

/-- One sample can always be added to rows of pods. -/
theorem exists_addStats?_podRows (s : Selection) (pods : List PodOwner) (meshed : MeshedPods)
    (key : QueryKey) (sample : Sample) :
    ∃ rows', addStats? s.kind (podRows s pods meshed) [(key, [sample])] = some rows' := by
  refine Option.ne_none_iff_exists'.mp fun hnone => ?_
  obtain ⟨ns, name, hlarge⟩ := (addStats?_eq_none_iff (stats_podRows s pods meshed)).mp hnone
  refine hlarge (countsFit_of_sum_lt s.kind ns name ?_)
  change sample.counter.toNat + 0 < 2 ^ 64
  exact sample.counter.toNat_lt

end Rows

/-- A selection of a kind that has pods selects a pod if and only if the labels of the pod meet its
selector and include those to group by. A sample that agrees with a selected pod on the latter is
added to the row in which the pod is counted, so that it makes no row of its own. -/
theorem selects_iff_labels (s : Selection) (pod : PodOwner) (hk : s.kind.hasPods = true) :
    (s.selects pod = true ↔ pod.Meets (queryLabels s) ∧
      ∀ name ∈ groupLabels s.kind, (pod.label? name).isSome = true) ∧
    (s.selects pod = true →
      (∀ meshed, (podRows s [pod] meshed).keys = [pod.row s.kind]) ∧
      ∀ sample : Sample, (∀ name ∈ groupLabels s.kind, sample.label? name = pod.label? name) →
        sampleRow? s.kind sample = some (pod.row s.kind) ∧
        ∀ pods meshed key, pod ∈ pods →
          ∃ rows', addStats? s.kind (podRows s pods meshed) [(key, [sample])] = some rows' ∧
            rows'.keys = (podRows s pods meshed).keys) := by
  have hiff : s.selects pod = true ↔ pod.Meets (queryLabels s) ∧
      ∀ name ∈ groupLabels s.kind, (pod.label? name).isSome = true := by
    rw [selects_iff hk, meets_queryLabels hk, isSome_groupLabels hk, PodOwner.label?_label hk]
    by_cases hof : pod.isOf s.kind = true
    · simp only [hof, if_true, true_and, and_true, Option.some_inj, eq_comm]
    · exact ⟨fun h => absurd h.1 hof, fun h => absurd h.2 hof⟩
  refine ⟨hiff, fun h => ⟨keys_podRows_singleton h, fun sample hagree => ?_⟩⟩
  have hof := isOf_of_agree hk ((selects_iff hk).mp h).1 hagree
  refine ⟨sampleRow?_eq_some.mpr hof, fun pods meshed key hpod => ?_⟩
  obtain ⟨rows', hadded⟩ := exists_addStats?_podRows s pods meshed key sample
  have hrow := SummaryRows.mem_keys.mp ((counts_podRows s pods meshed).row_mem_keys hpod h)
  exact ⟨rows', hadded, keys_addStats?_of_isOf hof hrow hadded⟩

/-- A pod of a job, whose label is not the name of the kind, and a sample of how its requests were
classified. -/
theorem selects_iff_labels_job :
    let s : Selection := ⟨.job, "emojivoto", "vote"⟩
    let pod : PodOwner := ⟨"emojivoto", "vote-0", "job", "vote"⟩
    let sample : Sample := ⟨[("classification", "success"), ("k8s_job", "vote"),
      ("namespace", "emojivoto")], .finite false 1 0, .zero false⟩
    s.kind.hasPods = true ∧ s.selects pod = true ∧
      pod.Meets (queryLabels s) ∧ (∀ name ∈ groupLabels s.kind, (pod.label? name).isSome = true) ∧
      (∀ meshed, (podRows s [pod] meshed).keys = [("emojivoto", "vote")]) ∧
      (∀ name ∈ groupLabels s.kind, sample.label? name = pod.label? name) ∧
      sampleRow? s.kind sample = some ("emojivoto", "vote") ∧
      ∀ meshed key, ∃ rows',
        addStats? s.kind (podRows s [pod, pod] meshed) [(key, [sample])] = some rows' ∧
          rows'.keys = (podRows s [pod, pod] meshed).keys := by
  intro s pod sample
  have hselects : s.selects pod = true := by decide
  have hagree : ∀ name ∈ groupLabels s.kind, sample.label? name = pod.label? name := by decide
  obtain ⟨hiff, hrows⟩ := selects_iff_labels s pod (by decide)
  obtain ⟨hmeets, hgroup⟩ := hiff.mp hselects
  obtain ⟨hkeys, hsamples⟩ := hrows hselects
  obtain ⟨hrow, hsame⟩ := hsamples sample hagree
  exact ⟨by decide, hselects, hmeets, hgroup, hkeys, hagree, hrow,
    fun meshed key => hsame [pod, pod] meshed key List.mem_cons_self⟩

end MeshDestination.Traffic
