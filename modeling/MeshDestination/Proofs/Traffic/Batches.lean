import MeshDestination.Proofs.Traffic.Failure
import MeshDestination.Proofs.Traffic.Selectors
import MeshDestination.Proofs.Traffic.Tally

/-!
# The batches of a summary

A valid request whose queries all succeed has a summary, unless the samples overflow a count, which
ends the request (`answered_summarize`). A summary has one batch for each kind that is asked for, in
order, made of the pods and the samples of the kind (`summarize_cases`).
-/

namespace MeshDestination.Traffic

open Std

variable {b : Backend}

/-! ## Counts that are too large -/

/-- All queries for a kind are answered, and the samples do not fit into the counts of some row. -/
def SummaryPlan.Overflows (p : SummaryPlan) (b : Backend) (k : Kind) : Prop :=
  ∃ out : KeyedQuery → List Sample,
    (∀ q ∈ (p.inquiry k).queries, (b q.2).outcome = .samples (out q)) ∧
      ∃ ns name, ¬ CountsFit k ns name ((p.inquiry k).queries.map fun q => (q.1, out q))

/-- The samples for some kind of a valid request do not fit into the counts of some row. -/
def SummaryRequest.Overflows (r : SummaryRequest) (b : Backend) : Prop :=
  ∃ p, r.plan = .ok p ∧ ∃ k ∈ p.kinds, p.Overflows b k

theorem SummaryPlan.overflows_iff {p : SummaryPlan} {k : Kind} {out : KeyedQuery → List Sample}
    (hout : ∀ q ∈ (p.inquiry k).queries, (b q.2).outcome = .samples (out q)) :
    p.Overflows b k ↔
      ∃ ns name, ¬ CountsFit k ns name ((p.inquiry k).queries.map fun q => (q.1, out q)) := by
  refine ⟨?_, fun hlarge => ⟨out, hout, hlarge⟩⟩
  rintro ⟨out', hout', hlarge⟩
  have hsame : (p.inquiry k).queries.map (fun q => (q.1, out' q)) =
      (p.inquiry k).queries.map fun q => (q.1, out q) := by
    refine List.map_congr_left fun q hq => ?_
    rw [Outcome.samples.inj ((hout' q hq).symm.trans (hout q hq))]
  rwa [hsame] at hlarge

theorem SummaryRequest.overflows_iff {r : SummaryRequest} {p : SummaryPlan}
    (hp : r.plan = .ok p) : r.Overflows b ↔ ∃ k ∈ p.kinds, p.Overflows b k := by
  simp [Overflows, hp]

/-- No count overflows if the samples of no answer come to much. -/
theorem SummaryPlan.not_overflows (p : SummaryPlan) (k : Kind)
    (h : ∀ q ss, (b q).outcome = .samples ss → (ss.map (·.counter.toNat)).sum ≤ 2 ^ 61) :
    ¬ p.Overflows b k := by
  rintro ⟨out, hout, ns, name, hlarge⟩
  refine hlarge (countsFit_of_sum_lt k ns name ?_)
  have hsum : ((keyedSamples ((p.inquiry k).queries.map fun q => (q.1, out q))).map
      (·.2.counter.toNat)).sum =
        ((p.inquiry k).queries.map fun q => ((out q).map (·.counter.toNat)).sum).sum := by
    simp [keyedSamples, List.flatMap, List.map_flatten, List.sum_flatten, Function.comp_def]
  have hle : ∀ n ∈ (p.inquiry k).queries.map fun q => ((out q).map (·.counter.toNat)).sum,
      n ≤ 2 ^ 61 := by
    intro n hn
    obtain ⟨q, hq, rfl⟩ := List.mem_map.mp hn
    exact h q.2 (out q) (hout q hq)
  have hlength : (p.inquiry k).queries.length = 4 := by
    simp [Inquiry.queries, inquiry, Quantile.all]
  rw [hsum]
  refine (List.sum_le_card_nsmul _ _ hle).trans_lt ?_
  rw [List.length_map, hlength]
  decide

theorem SummaryRequest.not_overflows (r : SummaryRequest)
    (h : ∀ q ss, (b q).outcome = .samples ss → (ss.map (·.counter.toNat)).sum ≤ 2 ^ 61) :
    ¬ r.Overflows b :=
  fun ⟨p, _, k, _, hlost⟩ => p.not_overflows k h hlost

/-- In whatever order the samples come that answer the queries, they do not fit. -/
theorem SummaryPlan.overflows_iff_of_ask {p : SummaryPlan} {k : Kind}
    {results : List (QueryKey × List Sample)}
    (h : ((p.inquiry k).ask b).result = .ok results) :
    p.Overflows b k ↔ ∃ ns name, ¬ CountsFit k ns name results := by
  have hout : ∀ q ∈ (p.inquiry k).queries,
      (b q.2).outcome = .samples ((b q.2).outcome.samples?.getD []) := by
    intro q hq
    obtain ⟨ss, hss⟩ := (p.inquiry k).samples_of_ask b h q hq
    rw [hss]
    rfl
  have hperm := (p.inquiry k).results_of_ask b (by simp [inquiry]) h hout
  have hfit (ns name : String) : CountsFit k ns name results ↔ CountsFit k ns name
      ((p.inquiry k).queries.map fun q => (q.1, (b q.2).outcome.samples?.getD [])) :=
    ⟨fun hfit => hfit.perm hperm, fun hfit => hfit.perm hperm.symm⟩
  simp only [overflows_iff hout, hfit]

/-- Rows of pods have no statistics. -/
theorem stats_podRows (s : Selection) (pods : List PodOwner) (meshed : MeshedPods)
    (ns name : String) : (podRows s pods meshed).stats ns name = {} := by
  have hkept (pods : List PodOwner) (rows : SummaryRows)
      (hrows : ∀ ns name, rows.stats ns name = {}) (ns name : String) :
      (pods.foldl (fun rows pod => rows.set pod.ns (podRowName s.kind pod)
        ((rows.row pod.ns (podRowName s.kind pod)).addPod (meshed.has pod.ns pod.name)))
        rows).stats ns name = {} := by
    induction pods generalizing rows with
    | nil => exact hrows ns name
    | cons pod pods ih =>
      refine ih _ fun ns' name' => ?_
      rw [SummaryRows.stats, SummaryRows.row_eq_getD, SummaryRows.row?_set]
      split
      · exact hrows _ _
      · rw [← SummaryRows.row_eq_getD]
        exact hrows _ _
  refine hkept _ ∅ (fun ns' name' => ?_) ns name
  rw [SummaryRows.stats, SummaryRows.row, TreeMap.getD_emptyc, TreeMap.getD_emptyc,
    Option.getD_none]

/-! ## Queries that succeed -/

/-- If no query fails that is sent for a request, there is a result, or else the request is lost. -/
def Asked.Answered (b : Backend) (a : Asked α) (Lost : Prop) : Prop :=
  (∀ q ∈ a.queries, ¬ b.Fails q) →
    ¬ Lost ∧ (∃ x, a.result = .ok x) ∨ Lost ∧ a.result = .error .crashed

theorem Backend.exists_samples {q : String} (h : ¬ b.Fails q) :
    ∃ ss, (b q).outcome = .samples ss := by
  simpa [Backend.Fails] using h

theorem Asked.answered_of_ok {a : Asked α}
    (h : (∀ q ∈ a.queries, ¬ b.Fails q) → ∃ x, a.result = .ok x) : a.Answered b False :=
  fun hqueries => .inl ⟨not_false, h hqueries⟩

theorem Asked.Answered.ok {a : Asked α} (h : a.Answered b False)
    (hqueries : ∀ q ∈ a.queries, ¬ b.Fails q) : ∃ x, a.result = .ok x := by
  obtain ⟨-, hok⟩ | ⟨hlost, -⟩ := h hqueries
  · exact hok
  · exact hlost.elim

theorem Asked.Answered.map {a : Asked α} {Lost : Prop} (h : a.Answered b Lost) (f : α → β) :
    (a.map f).Answered b Lost := by
  intro hqueries
  obtain ⟨hkept, x, hx⟩ | ⟨hlost, hcrashed⟩ := h hqueries
  · exact .inl ⟨hkept, f x, by simp [Asked.map, hx, Except.map]⟩
  · exact .inr ⟨hlost, by simp [Asked.map, hcrashed, Except.map]⟩

theorem Asked.Answered.andThen {a : Asked α} {Lost : Prop} (h : a.Answered b False)
    {f : α → Asked β} (hf : ∀ x, a.result = .ok x → (f x).Answered b Lost) :
    (a.andThen f).Answered b Lost := by
  unfold Asked.andThen
  cases hr : a.result with
  | error e =>
    intro hqueries
    obtain ⟨x, hx⟩ := h.ok hqueries
    cases hr.symm.trans hx
  | ok x => exact fun hqueries => hf x hr fun q hq => hqueries q (List.mem_append_right _ hq)

theorem answered_ask (b : Backend) (query : String) : (ask b query).Answered b False := by
  refine Asked.answered_of_ok fun hqueries => ?_
  obtain ⟨ss, hss⟩ := b.exists_samples (hqueries query (by simp [queries_ask]))
  exact ⟨ss, by simp [ask, hss]⟩

theorem Inquiry.answered_ask (b : Backend) (i : Inquiry) : (i.ask b).Answered b False := by
  refine Asked.answered_of_ok fun hqueries => ?_
  cases hr : (i.ask b).result with
  | ok results => exact ⟨results, rfl⟩
  | error e =>
    obtain ⟨q, hq, he⟩ := i.failed_of_ask b hr
    exact absurd (Backend.fails_of_result he) (hqueries q.2 (List.mem_map_of_mem hq))

/-- The batches of some kinds are lost exactly if a kind overflows. -/
theorem SummaryPlan.answered_batches (b : Backend) (p : SummaryPlan) (pods : List PodOwner)
    (meshed : MeshedPods) (kinds : List Kind) : ∀ previous,
      (p.batches b pods meshed kinds previous).Answered b (∃ k ∈ kinds, p.Overflows b k) := by
  induction kinds with
  | nil => exact fun _ _ => .inl ⟨nofun, [], rfl⟩
  | cons k kinds ih =>
    refine fun _ => ((p.inquiry k).answered_ask b).andThen fun results hresults => ?_
    have hoverflows : p.Overflows b k ↔
        addStats? k (podRows (p.selection k) pods meshed) results = none := by
      rw [overflows_iff_of_ask hresults, addStats?_eq_none_iff (stats_podRows _ pods meshed)]
    split
    · next hnone =>
      exact fun _ => .inr ⟨⟨k, List.mem_cons_self, hoverflows.mpr hnone⟩, rfl⟩
    · next rows hsome =>
      have hkept : ¬ p.Overflows b k := by simp [hoverflows, hsome]
      have hlost : (∃ k' ∈ k :: kinds, p.Overflows b k') ↔ ∃ k' ∈ kinds, p.Overflows b k' := by
        simp [hkept]
      rw [hlost]
      exact (ih _).map _

/-- A valid request whose queries succeed has a summary, unless a count overflows. -/
theorem answered_summarize (b : Backend) {r : SummaryRequest} (hvalid : r.Valid)
    (pods : List PodOwner) : (summarize b r pods).Answered b (r.Overflows b) := by
  obtain ⟨p, hp, -⟩ | ⟨_, -, hinvalid⟩ := r.plan_cases
  · unfold summarize
    rw [hp, SummaryRequest.overflows_iff hp]
    exact ((answered_ask b _).map _).andThen fun meshed _ => p.answered_batches b pods meshed _ _
  · exact absurd hvalid hinvalid

/-! ## Batches -/

theorem Asked.andThen_eq_ok {a : Asked α} {f : α → Asked β} {y : β}
    (h : (a.andThen f).result = .ok y) : ∃ x, a.result = .ok x ∧ (f x).result = .ok y := by
  unfold Asked.andThen at h
  cases hr : a.result with
  | error e =>
    rw [hr] at h
    cases h
  | ok x =>
    rw [hr] at h
    exact ⟨x, rfl, h⟩

theorem Asked.map_eq_ok {a : Asked α} {f : α → β} {y : β} (h : (a.map f).result = .ok y) :
    ∃ x, a.result = .ok x ∧ f x = y := by
  unfold Asked.map at h
  cases hr : a.result with
  | error e =>
    rw [hr] at h
    cases h
  | ok x =>
    rw [hr] at h
    exact ⟨x, rfl, Except.ok.inj h⟩

theorem result_askMeshed (b : Backend) (ns : String) {ss : List Sample}
    (h : (b (meshedQuery ns)).outcome = .samples ss) :
    (askMeshed b ns).result = .ok (ss.foldl MeshedPods.recordSample ∅) := by
  rw [askMeshed, ask, h]
  rfl

/-- A batch is made of the pods and samples of its kind, after some batch before it. -/
def SummaryPlan.Makes (p : SummaryPlan) (b : Backend) (pods : List PodOwner) (meshed : MeshedPods)
    (batch : SummaryBatch) : Prop :=
  ∃ results rows previous, ((p.inquiry batch.kind).ask b).result = .ok results ∧
    addStats? batch.kind (podRows (p.selection batch.kind) pods meshed) results = some rows ∧
    batch = SummaryBatch.ofRows batch.kind rows previous

theorem kind_ofRows (k : Kind) (rows : SummaryRows) (previous : Option SummaryBatch) :
    (SummaryBatch.ofRows k rows previous).kind = k := by
  unfold SummaryBatch.ofRows
  split <;> rfl

theorem SummaryPlan.batches_eq_ok {p : SummaryPlan} {pods : List PodOwner} {meshed : MeshedPods}
    {kinds : List Kind} {previous : Option SummaryBatch} {batches : List SummaryBatch}
    (h : (p.batches b pods meshed kinds previous).result = .ok batches) :
    batches.map (·.kind) = kinds ∧ ∀ batch ∈ batches, p.Makes b pods meshed batch := by
  induction kinds generalizing previous batches with
  | nil =>
    cases h
    exact ⟨rfl, nofun⟩
  | cons k kinds ih =>
    obtain ⟨results, hresults, hrest⟩ := Asked.andThen_eq_ok h
    split at hrest
    · cases hrest
    · next rows hrows =>
      obtain ⟨rest, hok, rfl⟩ := Asked.map_eq_ok hrest
      obtain ⟨hkinds, hmade⟩ := ih hok
      refine ⟨by rw [List.map_cons, kind_ofRows, hkinds], ?_⟩
      refine List.forall_mem_cons.mpr ⟨⟨results, rows, previous, ?_⟩, hmade⟩
      rw [kind_ofRows]
      exact ⟨hresults, hrows, rfl⟩

/-- A summary has one batch for each kind that is asked for, in order. -/
theorem summarize_eq_ok {r : SummaryRequest} {pods : List PodOwner} {batches : List SummaryBatch}
    (h : (summarize b r pods).result = .ok batches) :
    ∃ p meshed, r.plan = .ok p ∧ (askMeshed b r.ns).result = .ok meshed ∧
      batches.map (·.kind) = p.kinds ∧ ∀ batch ∈ batches, p.Makes b pods meshed batch := by
  unfold summarize at h
  cases hp : r.plan with
  | error e =>
    rw [hp] at h
    cases h
  | ok p =>
    rw [hp] at h
    obtain ⟨meshed, hmeshed, hbatches⟩ := Asked.andThen_eq_ok h
    rw [(SummaryRequest.plan_eq_ok hp).2.1] at hmeshed
    exact ⟨p, meshed, rfl, hmeshed, SummaryPlan.batches_eq_ok hbatches⟩

theorem mem_queries_summarize_meshed {r : SummaryRequest} {p : SummaryPlan} (hp : r.plan = .ok p)
    (b : Backend) (pods : List PodOwner) : meshedQuery r.ns ∈ (summarize b r pods).queries := by
  have hmeshed : meshedQuery r.ns ∈ (askMeshed b p.ns).queries := by
    change meshedQuery r.ns ∈ (ask b (meshedQuery p.ns)).queries
    rw [queries_ask, (SummaryRequest.plan_eq_ok hp).2.1]
    exact List.mem_singleton_self _
  unfold summarize Asked.andThen
  rw [hp]
  dsimp only
  split
  · exact List.mem_append_left _ hmeshed
  · exact hmeshed

/-- A valid request whose queries succeed has its batches, or is lost over a count. -/
theorem summarize_cases {r : SummaryRequest} {pods : List PodOwner} (hvalid : r.Valid)
    (hqueries : ∀ q ∈ (summarize b r pods).queries, ¬ b.Fails q) :
    ∃ p meshed, r.plan = .ok p ∧ (askMeshed b r.ns).result = .ok meshed ∧
      (r.Overflows b ∧ (summarize b r pods).result = .error .crashed ∨
        ¬ r.Overflows b ∧ ∃ batches, (summarize b r pods).result = .ok batches ∧
          batches.map (·.kind) = p.kinds ∧ ∀ batch ∈ batches, p.Makes b pods meshed batch) := by
  obtain ⟨hkept, batches, hok⟩ | ⟨hlost, hcrashed⟩ := answered_summarize b hvalid pods hqueries
  · obtain ⟨p, meshed, hp, hmeshed, hbatches⟩ := summarize_eq_ok hok
    exact ⟨p, meshed, hp, hmeshed, .inr ⟨hkept, batches, hok, hbatches⟩⟩
  · have ⟨p, hp, _⟩ := hlost
    obtain ⟨ss, hss⟩ := b.exists_samples (hqueries _ (mem_queries_summarize_meshed hp b pods))
    exact ⟨p, _, hp, result_askMeshed b r.ns hss, .inl ⟨hlost, hcrashed⟩⟩

end MeshDestination.Traffic
