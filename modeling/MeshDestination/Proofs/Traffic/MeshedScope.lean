import MeshDestination.Proofs.Traffic.PodLabels

/-!
# Pods of the namespace that is asked

The pods whose proxies report are asked for in the namespace of a request. What a request selects
lies in that namespace too (`ns_of_selects`), with one exception: a namespace that is selected by a
name of its own. Rows of that one are counted without a report, so that no pod of theirs counts as
meshed; in all other rows every pod that reports does (`counted_in_queried_namespace`).
-/

namespace MeshDestination.Traffic

open Std Number

/-! ## Reports -/

section Reports

variable {m : MeshedPods} {ns name : String}

theorem has_record (m : MeshedPods) (ns name ns' name' : String) (time : Binary) :
    (m.record ns name time).has ns' name' = true ↔
      ns = ns' ∧ name = name' ∨ m.has ns' name' = true := by
  simp only [MeshedPods.has, MeshedPods.record, TreeMap.getD_insert, LawfulEqCmp.compare_eq_iff_eq]
  split
  · next h => simp [h, TreeMap.contains_insert]
  · next h => simp [h]

theorem has_recordSample (m : MeshedPods) (s : Sample) :
    (m.recordSample s).has ns name = true ↔ s.IsOf .pod ns name ∨ m.has ns name = true := by
  have hlabel : Kind.label .pod = "pod" := rfl
  unfold MeshedPods.recordSample Sample.IsOf
  rw [hlabel]
  split
  · next ns' name' hns hname => simp [has_record, hns, hname]
  · next hnone =>
    have hother : ¬ (s.label? namespaceLabel = some ns ∧ s.label? "pod" = some name) := fun h =>
      hnone _ _ h.1 h.2
    rw [or_iff_right hother]

theorem has_foldl_recordSample (ss : List Sample) (m : MeshedPods) :
    (ss.foldl MeshedPods.recordSample m).has ns name = true ↔
      (∃ s ∈ ss, s.IsOf .pod ns name) ∨ m.has ns name = true := by
  induction ss generalizing m with
  | nil => simp
  | cons s ss ih =>
    rw [List.foldl_cons, ih, has_recordSample]
    simp [or_assoc, or_left_comm]

/-- A backend tells of a namespace which of its pods report, and of no others. -/
def Backend.TellsMeshed (b : Backend) (ns : String) (reports : String → String → Bool) : Prop :=
  ∀ ss, (b (meshedQuery ns)).outcome = .samples ss → ∀ ns' name,
    (∃ s ∈ ss, s.IsOf .pod ns' name) ↔ ns' = ns ∧ reports ns' name = true

theorem has_askMeshed {b : Backend} {meshed : MeshedPods} {reports : String → String → Bool}
    (htells : b.TellsMeshed ns reports) (h : (askMeshed b ns).result = .ok meshed)
    (ns' name : String) :
    meshed.has ns' name = true ↔ ns' = ns ∧ reports ns' name = true := by
  obtain ⟨ss, hask, hmeshed⟩ := Asked.map_eq_ok h
  have hanswer : (b (meshedQuery ns)).outcome = .samples ss := by
    unfold ask at hask
    split at hask
    · next hsamples => rw [hsamples, Except.ok.inj hask]
    · cases hask
    · cases hask
  have hempty : (∅ : MeshedPods).has ns' name = false := by
    rw [MeshedPods.has, TreeMap.getD_emptyc, TreeMap.contains_emptyc]
  rw [← hmeshed, has_foldl_recordSample, hempty, ← htells ss hanswer]
  simp

end Reports

/-! ## Selected pods -/

/-- A namespace is asked for by a name, and in another namespace. -/
def SummaryRequest.NamesOther (r : SummaryRequest) (k : Kind) : Prop :=
  k = .ns ∧ r.name ≠ "" ∧ r.name ≠ r.ns

instance (r : SummaryRequest) (k : Kind) : Decidable (r.NamesOther k) :=
  inferInstanceAs (Decidable (_ ∧ _))

section Selected

variable {b : Backend} {r : SummaryRequest} {p : SummaryPlan} {k : Kind} {pod : PodOwner}
  {pods : List PodOwner} {meshed : MeshedPods} {batch : SummaryBatch}

theorem hasPods_of_selects {s : Selection} (h : s.selects pod = true) : s.kind.hasPods = true := by
  obtain ⟨k, ns, name⟩ := s
  cases k <;> first | rfl | exact absurd h (by simp [Selection.selects, Kind.hasPods])

theorem kind_selection (p : SummaryPlan) (k : Kind) : (p.selection k).kind = k := by
  unfold SummaryPlan.selection
  split <;> rfl

/-- What is selected lies in the namespace of the request, unless a namespace is asked for by a name
of its own. -/
theorem ns_of_selects (hp : r.plan = .ok p) (hns : r.ns ≠ "")
    (h : (p.selection k).selects pod = true) :
    pod.ns = if r.NamesOther k then r.name else r.ns := by
  obtain ⟨-, hpns, hpname, -, -⟩ := SummaryRequest.plan_eq_ok hp
  obtain ⟨-, hselectedNs, hselectedName⟩ := (selects_iff (hasPods_of_selects h)).mp h
  rw [kind_selection] at hselectedNs hselectedName
  by_cases hkind : k = .ns
  · subst hkind
    -- a namespace without a name is named by the namespace of the request
    by_cases hname : r.name = ""
    · have hselected : p.selection .ns = ⟨.ns, "", r.ns⟩ := by
        simp [SummaryPlan.selection, hpns, hpname, hname]
      rw [hselected] at hselectedName
      rw [if_neg fun hother => hother.2.1 hname]
      exact (hselectedName.resolve_left hns).symm
    · have hselected : p.selection .ns = ⟨.ns, r.ns, r.name⟩ := by
        simp [SummaryPlan.selection, hpns, hpname, hname]
      rw [hselected] at hselectedName
      have hpod : pod.ns = r.name := (hselectedName.resolve_left hname).symm
      split
      · exact hpod
      · next hother => exact hpod.trans (not_not.mp fun hne => hother ⟨rfl, hname, hne⟩)
  · have hselected : (p.selection k).ns = r.ns := by
      simp [SummaryPlan.selection, hpns, hkind]
    rw [hselected] at hselectedNs
    rw [if_neg fun hother => hkind hother.1]
    exact ((hselectedNs.resolve_left hkind).resolve_left hns).symm

/-- The pods of a row are counted in it, and of these the meshed ones. -/
theorem counts_of_makes (hmade : p.Makes b pods meshed batch)
    {row : String × String × SummaryRow} (hrow : row ∈ batch.rows) :
    row.2.2.totalPods = (rowPods (p.selection batch.kind) row.1 row.2.1 pods).length ∧
      row.2.2.meshedPods =
        (rowPods (p.selection batch.kind) row.1 row.2.1 pods).countP (·.isMeshed meshed) := by
  obtain ⟨results, rows, previous, -, hrows, hbatch⟩ := hmade
  rw [hbatch] at hrow
  obtain ⟨_, -, hcounts⟩ :=
    counts_of_mem_rows ((counts_podRows _ pods meshed).addStats? hrows) hrow
  exact ⟨hcounts.totalPods, hcounts.meshedPods⟩

/-- Every selected pod has its row. -/
theorem exists_row_of_makes (hmade : p.Makes b pods meshed batch) (hpod : pod ∈ pods)
    (hselected : (p.selection batch.kind).selects pod = true) :
    ∃ row ∈ batch.rows, (row.1, row.2.1) = pod.row batch.kind := by
  obtain ⟨results, rows, previous, -, hrows, hbatch⟩ := hmade
  have hkey := ((counts_podRows _ pods meshed).addStats? hrows).row_mem_keys hpod hselected
  rw [kind_selection] at hkey
  obtain ⟨entry, hentry, hkey⟩ := List.mem_map.mp hkey
  rw [hbatch, kind_ofRows, rows_ofRows]
  exact ⟨_, List.mem_map_of_mem hentry, hkey⟩

/-- The pods of a row lie in the namespace of the request, or in that of a name of its own. They
count as meshed if they report, and not at all in the other namespace. -/
theorem counted_of_makes (hp : r.plan = .ok p) (hns : r.ns ≠ "")
    (hmeshed : (askMeshed b r.ns).result = .ok meshed) (hmade : p.Makes b pods meshed batch)
    {row : String × String × SummaryRow} (hrow : row ∈ batch.rows) :
    let counted := rowPods (p.selection batch.kind) row.1 row.2.1 pods
    row.2.2.totalPods = counted.length ∧
    (∀ pod ∈ counted, pod.ns = if r.NamesOther batch.kind then r.name else r.ns) ∧
    ∀ reports, b.TellsMeshed r.ns reports → row.2.2.meshedPods =
      if r.NamesOther batch.kind then 0
      else counted.countP fun pod => reports pod.ns pod.name := by
  intro counted
  have hcounted : ∀ pod ∈ counted, pod.ns = if r.NamesOther batch.kind then r.name else r.ns :=
    fun pod hpod =>
      ns_of_selects hp hns (List.mem_filter.mp (List.mem_filter.mp hpod).1).2
  obtain ⟨htotal, hmeshedPods⟩ := counts_of_makes hmade hrow
  refine ⟨htotal, hcounted, fun reports htells => hmeshedPods.trans ?_⟩
  have hreports := has_askMeshed htells hmeshed
  split
  · next hother =>
    refine List.countP_eq_zero.mpr fun pod hpod hreported => hother.2.2 ?_
    rw [← ((hreports _ _).mp hreported).1, hcounted pod hpod, if_pos hother]
  · next hother =>
    refine List.countP_congr fun pod hpod => ?_
    have hpodNs : pod.ns = r.ns := (hcounted pod hpod).trans (if_neg hother)
    exact (hreports _ _).trans (and_iff_right hpodNs)

end Selected

/-- A request with a namespace asks which pods of that namespace report. There is a summary unless a
count of requests is too large. The pods of every row lie in that namespace too, so that each that
reports is counted as meshed, if the backend tells of it. A namespace that is asked for by a name of
its own is the exception: its pods lie in the namespace of that name, and none is counted as meshed,
whether it reports or not. -/
theorem counted_in_queried_namespace (b : Backend) (r : SummaryRequest) (pods : List PodOwner)
    (hvalid : r.Valid) (hqueries : ∀ q ∈ (summarize b r pods).queries, ¬ b.Fails q)
    (hns : r.ns ≠ "") :
    meshedQuery r.ns ∈ (summarize b r pods).queries ∧
    readLabels (meshedQuery r.ns) = some [(namespaceLabel, r.ns)] ∧
    ∃ p, r.plan = .ok p ∧
      (r.Overflows b ∧ (summarize b r pods).result = .error .crashed ∨
        ¬ r.Overflows b ∧ ∃ batches, (summarize b r pods).result = .ok batches ∧
          batches.map (·.kind) = p.kinds ∧
          ∀ batch ∈ batches, ∀ row ∈ batch.rows,
            let counted := rowPods (p.selection batch.kind) row.1 row.2.1 pods
            row.2.2.totalPods = counted.length ∧
            (∀ pod ∈ counted, pod.ns = if r.NamesOther batch.kind then r.name else r.ns) ∧
            ∀ reports, b.TellsMeshed r.ns reports → row.2.2.meshedPods =
              if r.NamesOther batch.kind then 0
              else counted.countP fun pod => reports pod.ns pod.name) := by
  obtain ⟨p, meshed, hp, hmeshed, hcases⟩ := summarize_cases hvalid hqueries
  refine ⟨mem_queries_summarize_meshed hp b pods, ?_, p, hp, hcases.imp_right ?_⟩
  · rw [SummaryRequest.readLabels_meshedQuery, labelIf, if_pos (by simpa using hns)]
    rfl
  · rintro ⟨hfits, batches, hok, hkinds, hmade⟩
    exact ⟨hfits, batches, hok, hkinds, fun batch hbatch row =>
      counted_of_makes hp hns hmeshed (hmade batch hbatch)⟩

/-- Of the two pods of a deployment one reports, and so does a pod of another namespace. -/
theorem counted_in_queried_namespace_web :
    let reporting : Sample :=
      ⟨[("namespace", "emojivoto"), ("pod", "web-0")], .zero false, .zero false⟩
    let b : Backend := fun q =>
      ⟨.samples (if q = meshedQuery "emojivoto" then [reporting] else []), 0⟩
    let r : SummaryRequest := { type := "deploy", ns := "emojivoto" }
    let pods : List PodOwner := [⟨"emojivoto", "web-0", "deployment", "web"⟩,
      ⟨"default", "web-0", "deployment", "web"⟩, ⟨"emojivoto", "web-1", "deployment", "web"⟩]
    let reports (_ name : String) : Bool := name = "web-0"
    r.Valid ∧ (∀ q ∈ (summarize b r pods).queries, ¬ b.Fails q) ∧ r.ns ≠ "" ∧
      b.TellsMeshed r.ns reports ∧
      ∃ batch, (summarize b r pods).result = .ok [batch] ∧
        ∀ row ∈ batch.rows,
          (∀ pod ∈ rowPods ⟨.deployment, "emojivoto", ""⟩ row.1 row.2.1 pods,
            pod.ns = "emojivoto") ∧
          row.2.2.meshedPods = (rowPods ⟨.deployment, "emojivoto", ""⟩ row.1 row.2.1 pods).countP
            fun pod => reports pod.ns pod.name := by
  intro reporting b r pods reports
  have hplan : r.plan = .ok ⟨[.deployment], "emojivoto", "", "1m", none⟩ := by decide +kernel
  have hvalid : r.Valid := SummaryRequest.valid_of_plan hplan
  have hqueries : ∀ q ∈ (summarize b r pods).queries, ¬ b.Fails q := fun q _ hfails =>
    hfails _ rfl
  have htells : b.TellsMeshed r.ns reports := by
    intro ss hss ns name
    cases (congrArg Outcome.samples (if_pos rfl)).symm.trans hss
    simp only [List.mem_singleton, exists_eq_left]
    change some "emojivoto" = some ns ∧ some "web-0" = some name ↔
      ns = "emojivoto" ∧ decide (name = "web-0") = true
    simp [eq_comm]
  have hfits : ¬ r.Overflows b := r.not_overflows fun q ss hss => by
    rw [← Outcome.samples.inj hss]
    split <;> decide +kernel
  obtain ⟨-, -, p, hp, ⟨hlost, -⟩ | ⟨-, batches, hok, hkinds, hrows⟩⟩ :=
    counted_in_queried_namespace b r pods hvalid hqueries (by decide)
  · exact absurd hlost hfits
  cases Except.ok.inj (hplan.symm.trans hp)
  obtain ⟨batch, rfl, hkind⟩ := List.map_eq_singleton_iff.mp hkinds
  refine ⟨hvalid, hqueries, by decide, htells, batch, hok, fun row hrow => ?_⟩
  obtain ⟨-, hns, hmeshed⟩ := hrows batch (List.mem_singleton_self batch) row hrow
  rw [hkind] at hns hmeshed
  exact ⟨hns, hmeshed reports htells⟩

/-- A namespace is asked for by its name, in another namespace. Its pod reports, and is told of when
its namespace is asked, yet it is not counted as meshed. -/
theorem named_namespace_not_meshed :
    let reporting : Sample :=
      ⟨[("namespace", "emojivoto"), ("pod", "web-0")], .zero false, .zero false⟩
    let b : Backend := fun q =>
      ⟨.samples (if q = meshedQuery "emojivoto" then [reporting] else []), 0⟩
    let r : SummaryRequest := { type := "ns", name := "emojivoto", ns := "default" }
    let pods : List PodOwner := [⟨"emojivoto", "web-0", "deployment", "web"⟩]
    let reports (ns name : String) : Bool := ns = "emojivoto" && name = "web-0"
    r.Valid ∧ (∀ q ∈ (summarize b r pods).queries, ¬ b.Fails q) ∧ r.ns ≠ "" ∧
      b.TellsMeshed "default" reports ∧ b.TellsMeshed "emojivoto" reports ∧
      ∃ batch, (summarize b r pods).result = .ok [batch] ∧ ∃ row ∈ batch.rows,
        rowPods ⟨.ns, "default", "emojivoto"⟩ row.1 row.2.1 pods = pods ∧
        (∀ pod ∈ pods, pod.ns ≠ r.ns ∧ reports pod.ns pod.name = true) ∧
        row.2.2.totalPods = 1 ∧ row.2.2.meshedPods = 0 := by
  intro reporting b r pods reports
  have hplan : r.plan = .ok ⟨[.ns], "default", "emojivoto", "1m", none⟩ := by decide +kernel
  have hqueries : ∀ q ∈ (summarize b r pods).queries, ¬ b.Fails q := fun q _ hfails =>
    hfails _ rfl
  have hdefault : (b (meshedQuery "default")).outcome = .samples [] :=
    congrArg Outcome.samples (if_neg (by decide +kernel))
  have hemojivoto : (b (meshedQuery "emojivoto")).outcome = .samples [reporting] :=
    congrArg Outcome.samples (if_pos rfl)
  have hfits : ¬ r.Overflows b := r.not_overflows fun q ss hss => by
    rw [← Outcome.samples.inj hss]
    split <;> decide +kernel
  obtain ⟨p, meshed, hp, hmeshed, ⟨hlost, -⟩ | ⟨-, batches, hok, hkinds, hmade⟩⟩ :=
    summarize_cases (SummaryRequest.valid_of_plan hplan) hqueries
  · exact absurd hlost hfits
  cases Except.ok.inj (hplan.symm.trans hp)
  cases Except.ok.inj ((result_askMeshed b r.ns hdefault).symm.trans hmeshed)
  obtain ⟨batch, rfl, hkind⟩ := List.map_eq_singleton_iff.mp hkinds
  have hbatch := hmade batch (List.mem_singleton_self batch)
  obtain ⟨row, hrow, hkey⟩ :=
    exists_row_of_makes hbatch List.mem_cons_self (by rw [hkind]; decide)
  have hcounts := counts_of_makes hbatch hrow
  rw [hkind] at hkey hcounts
  obtain ⟨hrowNs, hrowName⟩ := Prod.mk.inj hkey
  rw [hrowNs, hrowName] at hcounts
  refine ⟨SummaryRequest.valid_of_plan hplan, hqueries, by decide, ?_, ?_, batch, hok, row, hrow,
    ?_, by decide, hcounts.1.trans (by decide), hcounts.2.trans (by decide)⟩
  · intro ss hss ns name
    cases hdefault.symm.trans hss
    have hnone : ¬ (ns = "default" ∧ reports ns name = true) := by
      rintro ⟨rfl, hreports⟩
      simp [reports] at hreports
    simpa using hnone
  · intro ss hss ns name
    cases hemojivoto.symm.trans hss
    simp only [List.mem_singleton, exists_eq_left]
    change some "emojivoto" = some ns ∧ some "web-0" = some name ↔
      ns = "emojivoto" ∧ (decide (ns = "emojivoto") && decide (name = "web-0")) = true
    rw [Option.some_inj, Option.some_inj, Bool.and_eq_true, decide_eq_true_eq, decide_eq_true_eq]
    constructor
    · rintro ⟨rfl, rfl⟩
      exact ⟨rfl, rfl, rfl⟩
    · rintro ⟨rfl, -, rfl⟩
      exact ⟨rfl, rfl⟩
  · rw [hrowNs, hrowName]
    decide

end MeshDestination.Traffic
