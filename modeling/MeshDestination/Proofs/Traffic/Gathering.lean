import Mathlib.Data.List.Nodup
import MeshDestination.Traffic.Query

/-!
# Queries that are sent together

Queries may complete in any order, each with any outcome. Nothing is returned while one of them is
out. Once all have completed the samples of every query are returned under its key, unless one
failed; then the failure is returned that came first (`Inquiry.joins_of_perm`). The answer depends
on the order in no other way. What is known on the way is read off the completions so far: the
queries that are out (`Gathering.waiting_receiveAll`), the first failure
(`Gathering.failure_receiveAll`), and the samples (`Gathering.results_receiveAll`).
-/

namespace MeshDestination.Traffic

/-! ## Outcomes -/

/-- The failure of a query, if it failed. -/
def Outcome.failure? (o : Outcome) : Option QueryError :=
  match o.result with
  | .ok _ => none
  | .error e => some e

/-- The samples of a query, if it succeeded. -/
def Outcome.samples? (o : Outcome) : Option (List Sample) :=
  match o.result with
  | .ok ss => some ss
  | .error _ => none

theorem Outcome.samples?_eq_some {o : Outcome} {ss : List Sample} :
    o.samples? = some ss ↔ o = .samples ss := by
  cases o <;> simp [samples?, result]

theorem Outcome.failure?_eq_some {o : Outcome} {e : QueryError} :
    o.failure? = some e ↔ o.result = .error e := by
  unfold failure?
  cases o.result <;> simp

theorem Outcome.failure?_eq_none {o : Outcome} : o.failure? = none ↔ ∃ ss, o = .samples ss := by
  cases o <;> simp [failure?, result]

/-! ## While queries complete -/

namespace Gathering

theorem waiting_receive (g : Gathering) (q : KeyedQuery) (o : Outcome) :
    (g.receive q o).waiting = g.waiting.erase q := by
  unfold receive
  cases o.result <;> rfl

theorem failure_receive (g : Gathering) (q : KeyedQuery) (o : Outcome) :
    (g.receive q o).failure = g.failure.or o.failure? := by
  unfold receive Outcome.failure?
  cases o.result with
  | ok ss => exact (Option.or_none).symm
  | error e => rfl

theorem results_receive (g : Gathering) (q : KeyedQuery) (o : Outcome)
    (hnew : q.1 ∉ g.results.map (·.1)) :
    (g.receive q o).results = g.results ++ (o.samples?.map (q.1, ·)).toList := by
  unfold receive Outcome.samples?
  cases o.result with
  | ok ss =>
    have hkept : g.results.filter (fun r => decide (r.1 ≠ q.1)) = g.results := by
      rw [List.filter_eq_self]
      intro r hr
      simp only [decide_eq_true_eq]
      rintro hkey
      exact hnew (hkey ▸ List.mem_map_of_mem hr)
    exact congrArg (· ++ [(q.1, ss)]) hkept
  | error e => exact (List.append_nil _).symm

/-- The queries that are out are those that have not completed. -/
theorem waiting_receiveAll (answers : List (KeyedQuery × Outcome)) :
    ∀ {g : Gathering} {rest : List KeyedQuery}, (answers.map (·.1) ++ rest).Perm g.waiting →
      rest.Perm (g.receiveAll answers).waiting := by
  induction answers with
  | nil => exact fun h => h
  | cons a answers ih =>
    intro g rest h
    refine ih (g := g.receive a.1 a.2) ?_
    rw [waiting_receive]
    exact (List.cons_perm_iff_perm_erase.mp h).2

/-- The failure that is kept is the one that came first. -/
theorem failure_receiveAll (answers : List (KeyedQuery × Outcome)) :
    ∀ g : Gathering, (g.receiveAll answers).failure =
      g.failure.or (answers.findSome? (·.2.failure?)) := by
  induction answers with
  | nil => exact fun g => Option.or_none.symm
  | cons a answers ih =>
    intro g
    calc (g.receiveAll (a :: answers)).failure
        = (g.receive a.1 a.2).failure.or (answers.findSome? (·.2.failure?)) := ih _
      _ = (g.failure.or a.2.failure?).or (answers.findSome? (·.2.failure?)) := by
        rw [failure_receive]
      _ = g.failure.or ((a :: answers).findSome? (·.2.failure?)) := by
        rw [Option.or_assoc, List.findSome?_cons]
        cases a.2.failure? <;> rfl

/-- Queries with keys of their own lose no samples to each other. -/
theorem results_receiveAll (answers : List (KeyedQuery × Outcome)) :
    ∀ g : Gathering, (g.results.map (·.1) ++ answers.map (·.1.1)).Nodup →
      (g.receiveAll answers).results =
        g.results ++ answers.filterMap fun a => a.2.samples?.map (a.1.1, ·) := by
  induction answers with
  | nil => exact fun g _ => (List.append_nil _).symm
  | cons a answers ih =>
    intro g hnodup
    have hnew : a.1.1 ∉ g.results.map (·.1) := fun hmem =>
      (List.nodup_append.mp hnodup).2.2 _ hmem _ List.mem_cons_self rfl
    have hreceive := results_receive g a.1 a.2 hnew
    have hstep : (((g.receive a.1 a.2).results.map (·.1)) ++ answers.map (·.1.1)).Nodup := by
      refine hnodup.sublist ?_
      rw [hreceive]
      cases a.2.samples? <;> simp
    calc (g.receiveAll (a :: answers)).results
        = (g.receive a.1 a.2).results ++
            answers.filterMap fun a => a.2.samples?.map (a.1.1, ·) := ih _ hstep
      _ = g.results ++ (a :: answers).filterMap fun a => a.2.samples?.map (a.1.1, ·) := by
        rw [hreceive, List.filterMap_cons, List.append_assoc]
        cases a.2.samples? <;> rfl

theorem result_eq_ok {g : Gathering} {results : List (QueryKey × List Sample)} :
    g.result = .ok results ↔ g.failure = none ∧ g.results = results := by
  unfold result
  cases g.failure <;> simp

theorem result_eq_error {g : Gathering} {e : QueryError} :
    g.result = .error e ↔ g.failure = some e := by
  unfold result
  cases g.failure <;> simp

end Gathering

/-! ## Once all have completed -/

namespace Inquiry

/-- What is known when some queries have completed, in this order and with these outcomes. -/
def after (i : Inquiry) (out : KeyedQuery → Outcome) (done : List KeyedQuery) : Gathering :=
  i.sent.receiveAll (done.map fun q => (q, out q))

/-- How the queries of an inquiry, with some outcomes and in an order in which they complete, come
to one answer. -/
structure Joins (i : Inquiry) (out : KeyedQuery → Outcome) (order : List KeyedQuery) : Prop where
  /-- Nothing is returned while a query is out. -/
  waits : ∀ done rest, order = done ++ rest → ((i.after out done).result?.isSome = true ↔ rest = [])
  /-- There are results if all queries succeed. -/
  ok_iff : (∃ results, (i.after out order).result? = some (.ok results)) ↔
    ∀ q ∈ i.queries, ∃ ss, out q = .samples ss
  /-- The results have the keys of the queries, each with the samples of its own query. -/
  results : ∀ results, (i.after out order).result? = some (.ok results) →
    (results.map (·.1)).Perm (i.queries.map (·.1)) ∧
      ∀ q ∈ i.queries, ∀ ss, (q.1, ss) ∈ results ↔ out q = .samples ss
  /-- Otherwise the failure is returned that came first. -/
  first : ∀ done q rest e, order = done ++ q :: rest → (∀ p ∈ done, ∃ ss, out p = .samples ss) →
    (out q).result = .error e → (i.after out order).result? = some (.error e)

/-- The keys of the queries: the name of each template, then the quantiles. -/
theorem keys_queries (i : Inquiry) : i.queries.map (·.1) =
    i.requests.map (fun t => .request t.1) ++
      [.latency .p50, .latency .p95, .latency .p99] := by
  simp [queries, Quantile.all, Function.comp_def]

theorem nodup_keys_queries {i : Inquiry} (hnames : (i.requests.map (·.1)).Nodup) :
    (i.queries.map (·.1)).Nodup := by
  have hrequests : (i.requests.map fun t => QueryKey.request t.1).Nodup := by
    refine List.Pairwise.map (R := fun s t => s.1 ≠ t.1) _ ?_ (List.pairwise_map.mp hnames)
    intro s t hne hkey
    exact hne (QueryKey.request.inj hkey)
  rw [keys_queries, List.nodup_append]
  refine ⟨hrequests, by decide, ?_⟩
  intro k hk l hl
  obtain ⟨t, -, rfl⟩ := List.mem_map.mp hk
  rintro rfl
  simp at hl

variable {i : Inquiry} {out : KeyedQuery → Outcome} {order : List KeyedQuery}

theorem failure_after (done : List KeyedQuery) :
    (i.after out done).failure = done.findSome? fun q => (out q).failure? := by
  rw [after, Gathering.failure_receiveAll, List.findSome?_map]
  exact Option.none_or

theorem results_after {done : List KeyedQuery} (hkeys : (done.map (·.1)).Nodup) :
    (i.after out done).results =
      done.filterMap fun q => (out q).samples?.map (q.1, ·) := by
  rw [after, Gathering.results_receiveAll, List.filterMap_map]
  · rfl
  · simpa [sent, List.map_map, Function.comp_def] using hkeys

theorem result?_after (horder : order.Perm i.queries) {done rest : List KeyedQuery}
    (h : order = done ++ rest) :
    (i.after out done).result? = if rest = [] then some (i.after out done).result else none := by
  have hwaiting : rest.Perm (i.after out done).waiting := by
    refine Gathering.waiting_receiveAll _ ?_
    rw [List.map_map, show (·.1) ∘ (fun q => (q, out q)) = id from rfl, List.map_id, ← h]
    exact horder
  have hempty : (i.after out done).waiting.isEmpty = true ↔ rest = [] := by
    rw [List.isEmpty_iff, ← List.perm_nil, ← List.perm_nil]
    exact ⟨hwaiting.trans, hwaiting.symm.trans⟩
  simp only [Gathering.result?, hempty]

/-- Once all have succeeded, each key stands with the samples of its own query. -/
theorem mem_results_after {done : List KeyedQuery} (hkeys : (done.map (·.1)).Nodup)
    {q : KeyedQuery} (hq : q ∈ done) (ss : List Sample) :
    (q.1, ss) ∈ (i.after out done).results ↔ out q = .samples ss := by
  rw [results_after hkeys, List.mem_filterMap]
  constructor
  · rintro ⟨p, hp, h⟩
    obtain ⟨ss', hss, hpair⟩ := Option.map_eq_some_iff.mp h
    obtain ⟨hkey, rfl⟩ := Prod.mk.inj hpair
    have hpq : p = q := List.inj_on_of_nodup_map hkeys hp hq hkey
    exact hpq ▸ Outcome.samples?_eq_some.mp hss
  · intro h
    exact ⟨q, hq, by rw [Outcome.samples?_eq_some.mpr h]; rfl⟩

theorem keys_results_after {done : List KeyedQuery} (hkeys : (done.map (·.1)).Nodup)
    (hok : ∀ q ∈ done, ∃ ss, out q = .samples ss) :
    (i.after out done).results.map (·.1) = done.map (·.1) := by
  rw [results_after hkeys, List.map_filterMap, ← List.filterMap_eq_map]
  refine List.filterMap_congr fun q hq => ?_
  obtain ⟨ss, h⟩ := hok q hq
  rw [Outcome.samples?_eq_some.mpr h]
  rfl

/-- Queries are joined whatever the order in which they complete, and whatever comes of them. -/
theorem joins_of_perm_queries (hnames : (i.requests.map (·.1)).Nodup)
    (horder : order.Perm i.queries) : i.Joins out order := by
  have hkeys : (order.map (·.1)).Nodup :=
    (horder.map _).nodup_iff.mpr (nodup_keys_queries hnames)
  have hdone : (i.after out order).result? = some (i.after out order).result := by
    rw [result?_after horder (List.append_nil order).symm, if_pos rfl]
  have hfailure : (i.after out order).failure = none ↔
      ∀ q ∈ i.queries, ∃ ss, out q = .samples ss := by
    rw [failure_after, List.findSome?_eq_none_iff]
    exact forall_congr' fun q => imp_congr horder.mem_iff Outcome.failure?_eq_none
  refine ⟨?_, ?_, ?_, ?_⟩
  · intro done rest h
    rw [result?_after horder h]
    split <;> simp [*]
  · rw [hdone, ← hfailure]
    simp [Gathering.result_eq_ok]
  · intro results h
    obtain ⟨hnone, rfl⟩ := Gathering.result_eq_ok.mp (Option.some.inj (hdone.symm.trans h))
    have hok : ∀ q ∈ order, ∃ ss, out q = .samples ss := fun q hq =>
      hfailure.mp hnone q (horder.mem_iff.mp hq)
    refine ⟨?_, fun q hq => mem_results_after hkeys (horder.mem_iff.mpr hq)⟩
    rw [keys_results_after hkeys hok]
    exact horder.map _
  · intro done q rest e h hsucceeded he
    have hbefore : done.findSome? (fun p => (out p).failure?) = none := by
      rw [List.findSome?_eq_none_iff]
      exact fun p hp => Outcome.failure?_eq_none.mpr (hsucceeded p hp)
    have hfirst : (i.after out order).failure = some e := by
      rw [failure_after, h, List.findSome?_append, hbefore, List.findSome?_cons,
        Outcome.failure?_eq_some.mpr he]
      rfl
    rw [hdone, Gathering.result_eq_error.mpr hfirst]

/-- The answers of a backend, the earliest first. -/
def answers (b : Backend) (i : Inquiry) : List (KeyedQuery × Answer) :=
  (i.queries.map fun q => (q, b q.2)).mergeSort fun x y => x.2.delay ≤ y.2.delay

/-- The order in which the queries complete that a backend answers. -/
def arrivals (b : Backend) (i : Inquiry) : List KeyedQuery := (i.answers b).map (·.1)

theorem arrivals_perm (b : Backend) (i : Inquiry) : (i.arrivals b).Perm i.queries := by
  have hkeyed : (i.queries.map fun q => (q, b q.2)).map (·.1) = i.queries := by
    rw [List.map_map]
    exact List.map_id _
  have hsorted := (List.mergeSort_perm (i.queries.map fun q => (q, b q.2))
    fun x y => x.2.delay ≤ y.2.delay).map (·.1)
  rw [hkeyed] at hsorted
  exact hsorted

theorem answers_eq (b : Backend) (i : Inquiry) :
    i.answers b = (i.arrivals b).map fun q => (q, b q.2) := by
  have hanswer : ∀ a ∈ i.answers b, (a.1, b a.1.2) = a := by
    intro a ha
    obtain ⟨q, -, rfl⟩ := List.mem_map.mp (List.mem_mergeSort.mp ha)
    rfl
  rw [arrivals, List.map_map]
  calc i.answers b = (i.answers b).map id := (List.map_id _).symm
    _ = (i.answers b).map fun a => (a.1, b a.1.2) :=
      List.map_congr_left fun a ha => (hanswer a ha).symm

theorem pairwise_arrivals (b : Backend) (i : Inquiry) :
    (i.arrivals b).Pairwise fun p q => (b p.2).delay ≤ (b q.2).delay := by
  have hsorted : (i.answers b).Pairwise fun x y => decide (x.2.delay ≤ y.2.delay) = true := by
    refine List.pairwise_mergeSort ?_ ?_ _
    · intro x y z hxy hyz
      exact decide_eq_true (Nat.le_trans (of_decide_eq_true hxy) (of_decide_eq_true hyz))
    · intro x y
      simpa using Nat.le_total x.2.delay y.2.delay
  rw [answers_eq, List.pairwise_map] at hsorted
  exact hsorted.imp of_decide_eq_true

theorem completions_eq (b : Backend) (i : Inquiry) :
    i.completions b = (i.arrivals b).map fun q => (q, (b q.2).outcome) := by
  calc i.completions b = (i.answers b).map fun a => (a.1, a.2.outcome) := rfl
    _ = (i.arrivals b).map fun q => (q, (b q.2).outcome) := by
      rw [answers_eq, List.map_map]
      rfl

theorem after_arrivals (b : Backend) (i : Inquiry) :
    i.after (fun q => (b q.2).outcome) (i.arrivals b) = i.sent.receiveAll (i.completions b) := by
  rw [after, ← completions_eq]

theorem result?_arrivals (b : Backend) (i : Inquiry) :
    (i.after (fun q => (b q.2).outcome) (i.arrivals b)).result? = some (i.ask b).result := by
  rw [result?_after (arrivals_perm b i) (List.append_nil _).symm, if_pos rfl, after_arrivals]
  rfl

/-- The failure with which queries are answered is that of one of them. -/
theorem failed_of_ask (i : Inquiry) (b : Backend) {e : QueryError}
    (h : (i.ask b).result = .error e) : ∃ q ∈ i.queries, (b q.2).outcome.result = .error e := by
  have hfailure : (i.sent.receiveAll (i.completions b)).failure = some e :=
    Gathering.result_eq_error.mp h
  rw [← after_arrivals, failure_after] at hfailure
  obtain ⟨q, hq, he⟩ := List.exists_of_findSome?_eq_some hfailure
  exact ⟨q, (arrivals_perm b i).mem_iff.mp hq, Outcome.failure?_eq_some.mp he⟩

theorem samples_of_ask (i : Inquiry) (b : Backend) {results : List (QueryKey × List Sample)}
    (h : (i.ask b).result = .ok results) :
    ∀ q ∈ i.queries, ∃ ss, (b q.2).outcome = .samples ss := by
  have hfailure : (i.sent.receiveAll (i.completions b)).failure = none :=
    (Gathering.result_eq_ok.mp h).1
  rw [← after_arrivals, failure_after, List.findSome?_eq_none_iff] at hfailure
  intro q hq
  exact Outcome.failure?_eq_none.mp (hfailure q ((arrivals_perm b i).mem_iff.mpr hq))

/-- The results are the samples with which the queries are answered. -/
theorem results_of_ask (i : Inquiry) (b : Backend) (hnames : (i.requests.map (·.1)).Nodup)
    {results : List (QueryKey × List Sample)} (h : (i.ask b).result = .ok results)
    {out : KeyedQuery → List Sample}
    (hout : ∀ q ∈ i.queries, (b q.2).outcome = .samples (out q)) :
    results.Perm (i.queries.map fun q => (q.1, out q)) := by
  have harrivals := arrivals_perm b i
  have hkeys : ((i.arrivals b).map (·.1)).Nodup :=
    (harrivals.map _).nodup_iff.mpr (nodup_keys_queries hnames)
  have hresults : results = (i.arrivals b).map fun q => (q.1, out q) := by
    rw [← (Gathering.result_eq_ok.mp h).2, ← after_arrivals, results_after hkeys,
      ← List.filterMap_eq_map]
    refine List.filterMap_congr fun q hq => ?_
    rw [hout q (harrivals.mem_iff.mp hq)]
    rfl
  rw [hresults]
  exact harrivals.map _

/-- One query is sent for each template and one for each quantile. They are joined in whatever
order they complete, and a backend answers them in an order of its own. -/
theorem joins_of_perm (i : Inquiry) (hnames : (i.requests.map (·.1)).Nodup) :
    i.queries.map (·.1) =
        i.requests.map (fun t => .request t.1) ++
          [.latency .p50, .latency .p95, .latency .p99] ∧
      (i.queries.map (·.1)).Nodup ∧
      (∀ out order, order.Perm i.queries → i.Joins out order) ∧
      ∀ b, (i.ask b).queries = i.queries.map (·.2) ∧
        ∃ order, order.Perm i.queries ∧
          order.Pairwise (fun p q => (b p.2).delay ≤ (b q.2).delay) ∧
          (i.after (fun q => (b q.2).outcome) order).result? = some (i.ask b).result := by
  refine ⟨keys_queries i, nodup_keys_queries hnames,
    fun out order => joins_of_perm_queries hnames, fun b => ⟨rfl, i.arrivals b, ?_⟩⟩
  exact ⟨arrivals_perm b i, pairwise_arrivals b i, result?_arrivals b i⟩

theorem joins_of_perm_died :
    ∃ i : Inquiry, i.requests.map (·.1) = ["failure", "success"] ∧
      (i.after (fun _ => .samples []) i.queries.reverse).result?.isSome = true ∧
      (i.after (fun q => if q.1 = .latency .p95 then .died else .samples [])
        i.queries.reverse).result? = some (.error .died) := by
  let i : Inquiry := ⟨[("failure", "b"), ("success", "a")], "c", ∅, "1m", []⟩
  obtain ⟨-, -, hjoins, -⟩ := joins_of_perm i (by decide)
  refine ⟨i, rfl, ?_, ?_⟩
  · exact ((hjoins _ _ i.queries.reverse_perm).waits _ [] (List.append_nil _).symm).mpr rfl
  · exact (hjoins _ _ i.queries.reverse_perm).first [_] (.latency .p95, _) [_, _, _] _ rfl
      (by simp) rfl

end Inquiry

end MeshDestination.Traffic
