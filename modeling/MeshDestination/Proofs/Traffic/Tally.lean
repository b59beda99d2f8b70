import Mathlib.Algebra.Order.BigOperators.Group.List
import Mathlib.Algebra.Order.Ring.Nat
import Mathlib.Data.List.Nodup
import MeshDestination.Traffic.Summary

/-!
# Traffic is summed up in any order

The samples of several queries are added to the rows of a summary one after the other: requests are
counted, a latency is replaced. What a row comes to depends only on the samples that belong to it
(`SummaryRows.row?_addStats?`), and of these a count is their sum, whatever the order, and a latency
is the last of one query. A count fails exactly if the sum is too large
(`RequestStats.addAll?_eq_none`). As the samples of a query stay together, the order of the queries
makes no difference (`addStats_sums`).
-/

namespace MeshDestination.Traffic

open Std

/-! ## Rows -/

namespace SummaryRows

variable {rows rows' : SummaryRows}

/-- The row of a thing, if there is one. -/
def row? (rows : SummaryRows) (ns name : String) : Option SummaryRow :=
  rows[ns]?.bind fun named => named[name]?

/-- The statistics of a thing, all zero if there are none. -/
def stats (rows : SummaryRows) (ns name : String) : RequestStats :=
  (rows.row ns name).stats.getD {}

theorem row_eq_getD (rows : SummaryRows) (ns name : String) :
    rows.row ns name = (rows.row? ns name).getD {} := by
  rw [row, row?, TreeMap.getD_eq_getD_getElem?, TreeMap.getD_eq_getD_getElem?]
  cases rows[ns]? with
  | none => rw [Option.getD_none, TreeMap.getElem?_emptyc, Option.bind_none]
  | some named => rfl

theorem row?_set (rows : SummaryRows) (ns name ns' name' : String) (r : SummaryRow) :
    (rows.set ns name r).row? ns' name' =
      if ns = ns' ∧ name = name' then some r else rows.row? ns' name' := by
  simp only [row?, set, TreeMap.getElem?_insert, LawfulEqCmp.compare_eq_iff_eq]
  by_cases hns : ns = ns'
  · subst hns
    simp only [if_true, true_and, Option.bind_some, TreeMap.getElem?_insert,
      LawfulEqCmp.compare_eq_iff_eq, TreeMap.getD_eq_getD_getElem?]
    cases rows[ns]? with
    | none => rw [Option.getD_none, TreeMap.getElem?_emptyc, Option.bind_none]
    | some named => rfl
  · rw [if_neg hns, if_neg fun h => hns h.1]

theorem mem_entries {entry : String × String × SummaryRow} :
    entry ∈ rows.entries ↔ rows.row? entry.1 entry.2.1 = some entry.2.2 := by
  obtain ⟨ns, name, r⟩ := entry
  simp only [entries, List.mem_flatMap, List.mem_map, Prod.exists,
    TreeMap.mem_toList_iff_getElem?_eq_some, row?, Option.bind_eq_some_iff]
  constructor
  · rintro ⟨_, named, hns, _, _, hname, heq⟩
    cases heq
    exact ⟨named, hns, hname⟩
  · rintro ⟨named, hns, hname⟩
    exact ⟨ns, named, hns, name, r, hname, rfl⟩

/-- Rows ascend by namespace, and by name in a namespace. -/
def Ascends (entry entry' : String × String × SummaryRow) : Prop :=
  entry.1 < entry'.1 ∨ entry.1 = entry'.1 ∧ entry.2.1 < entry'.2.1

theorem pairwise_entries (rows : SummaryRows) : rows.entries.Pairwise Ascends := by
  refine List.pairwise_flatMap.mpr ⟨?_, TreeMap.ordered_keys_toList.imp ?_⟩
  · rintro ⟨ns, named⟩ -
    refine List.pairwise_map.mpr (TreeMap.ordered_keys_toList.imp fun h => ?_)
    exact .inr ⟨rfl, compareOfLessAndEq_eq_lt.mp h⟩
  · rintro ⟨ns, named⟩ ⟨ns', named'⟩ hlt entry hentry entry' hentry'
    obtain ⟨_, -, rfl⟩ := List.mem_map.mp hentry
    obtain ⟨_, -, rfl⟩ := List.mem_map.mp hentry'
    exact .inl (compareOfLessAndEq_eq_lt.mp hlt)

theorem Ascends.asymm {entry entry' : String × String × SummaryRow} (h : Ascends entry entry') :
    ¬ Ascends entry' entry := by
  rintro (h' | ⟨heq', h'⟩) <;> rcases h with h | ⟨heq, h⟩
  · exact String.lt_asymm h h'
  · exact String.lt_irrefl _ (heq ▸ h')
  · exact String.lt_irrefl _ (heq' ▸ h)
  · exact String.lt_asymm h h'

/-- Maps that find the same rows list the same rows. -/
theorem entries_ext (h : ∀ ns name, rows.row? ns name = rows'.row? ns name) :
    rows.entries = rows'.entries := by
  have hnodup (rows : SummaryRows) : rows.entries.Nodup :=
    (pairwise_entries rows).imp fun hlt heq => (heq ▸ hlt).asymm (heq ▸ hlt)
  have hperm : rows.entries.Perm rows'.entries := by
    refine (List.perm_ext_iff_of_nodup (hnodup rows) (hnodup rows')).mpr fun entry => ?_
    rw [mem_entries, mem_entries, h]
  exact hperm.eq_of_pairwise (fun _ _ _ _ hlt hlt' => absurd hlt' hlt.asymm)
    (pairwise_entries rows) (pairwise_entries rows')

/-- Where each thing changes the row that it belongs to, a row comes to what the things come to that
belong to it, in their order. -/
theorem row?_foldl {α : Type} {ns name : String} {step : SummaryRows → α → SummaryRows}
    (belongs : α → Prop) [DecidablePred belongs] (f : SummaryRow → α → SummaryRow)
    (hstep : ∀ rows x, (step rows x).row? ns name =
      if belongs x then some (f (rows.row ns name) x) else rows.row? ns name)
    (xs : List α) (rows : SummaryRows) :
    (xs.foldl step rows).row? ns name =
      if xs.filter belongs = [] then rows.row? ns name
      else some ((xs.filter belongs).foldl f (rows.row ns name)) := by
  induction xs generalizing rows with
  | nil => rfl
  | cons x xs ih =>
    rw [List.foldl_cons, ih, row_eq_getD (step _ _), hstep]
    by_cases hx : belongs x
    · rw [List.filter_cons_of_pos (by simpa using hx), if_pos hx, if_neg (List.cons_ne_nil _ _)]
      split
      · next hnil =>
        rw [hnil]
        rfl
      · rfl
    · rw [List.filter_cons_of_neg (by simpa using hx), if_neg hx, ← row_eq_getD]

end SummaryRows

/-! ## Samples of a row -/

section Samples

variable {k : Kind} {ns name : String} {s : Sample}

/-- Whether a sample belongs to a row: the labels for the namespace and for the kind say so. Of a
namespace both are one. -/
def Sample.IsOf (s : Sample) (k : Kind) (ns name : String) : Prop :=
  s.label? namespaceLabel = some ns ∧ s.label? k.label = some name

instance (s : Sample) (k : Kind) (ns name : String) : Decidable (s.IsOf k ns name) :=
  inferInstanceAs (Decidable (_ ∧ _))

/-- Whether a sample belongs to any row. -/
def Sample.isLabelled (k : Kind) (s : Sample) : Bool :=
  (s.label? namespaceLabel).isSome && (s.label? k.label).isSome

theorem sampleRow?_eq (k : Kind) (s : Sample) :
    sampleRow? k s = (s.label? namespaceLabel).bind fun ns => (s.label? k.label).map (ns, ·) := by
  unfold sampleRow?
  by_cases hk : k = .ns
  · subst hk
    have hlabel : Kind.label .ns = namespaceLabel := rfl
    rw [hlabel]
    cases s.label? namespaceLabel <;> rfl
  · simp only [if_neg hk]
    cases s.label? namespaceLabel <;> cases s.label? k.label <;> rfl

theorem sampleRow?_eq_some : sampleRow? k s = some (ns, name) ↔ s.IsOf k ns name := by
  simp [sampleRow?_eq, Sample.IsOf, Option.bind_eq_some_iff]

theorem sampleRow?_eq_none : sampleRow? k s = none ↔ s.isLabelled k = false := by
  rw [sampleRow?_eq, Sample.isLabelled]
  cases s.label? namespaceLabel <;> cases s.label? k.label <;> simp

/-- Every sample with the query that it answers. -/
def keyedSamples (results : List (QueryKey × List Sample)) : List (QueryKey × Sample) :=
  results.flatMap fun (key, ss) => ss.map (key, ·)

/-- The samples that belong to a row. -/
def rowSamples (k : Kind) (ns name : String) (results : List (QueryKey × List Sample)) :
    List (QueryKey × Sample) :=
  (keyedSamples results).filter fun x => x.2.IsOf k ns name

theorem addStats?_eq_foldlM (k : Kind) (rows : SummaryRows)
    (results : List (QueryKey × List Sample)) :
    addStats? k rows results =
      (keyedSamples results).foldlM (fun rows x => addSample? k x.1 rows x.2) rows := by
  induction results generalizing rows with
  | nil => rfl
  | cons result results ih =>
    obtain ⟨key, ss⟩ := result
    have hcons : keyedSamples ((key, ss) :: results) =
        ss.map (key, ·) ++ keyedSamples results := rfl
    rw [hcons, List.foldlM_append, List.foldlM_map]
    exact bind_congr fun rows => ih rows

end Samples

/-! ## Counts and latencies -/

/-- The counts of requests. -/
inductive Count where
  | success
  | failure
  | tls

namespace Count

/-- The label that a count goes by. -/
def label : Count → String
  | .success | .failure => "classification"
  | .tls => "tls"

/-- The value of the label. -/
def value : Count → String
  | .success => "success"
  | .failure => "failure"
  | .tls => "true"

end Count

/-- Whether a query is for requests. -/
def QueryKey.isRequest : QueryKey → Bool
  | .request _ => true
  | .latency _ => false

/-- Whether a sample adds to a count. -/
def Count.takes (c : Count) (x : QueryKey × Sample) : Bool :=
  x.1.isRequest && x.2.label? c.label == some c.value

/-- The value of a count. -/
def RequestStats.count (st : RequestStats) : Count → UInt64
  | .success => st.success
  | .failure => st.failure
  | .tls => st.tls

/-- The latency of a quantile. -/
def RequestStats.latency (st : RequestStats) : Quantile → UInt64
  | .p50 => st.latencyP50
  | .p95 => st.latencyP95
  | .p99 => st.latencyP99

/-- The sum of the values of those samples of requests that have a label with a value. -/
def counted (label value : String) (samples : List (QueryKey × Sample)) : Nat :=
  ((samples.filter fun x => x.1.isRequest && x.2.label? label == some value).map
    (·.2.counter.toNat)).sum

/-- What a count comes to: what it is, and all values that are added. -/
def Count.total (c : Count) (st : RequestStats) (samples : List (QueryKey × Sample)) : Nat :=
  (st.count c).toNat + counted c.label c.value samples

/-- The samples of a query. -/
def vector (results : List (QueryKey × List Sample)) (key : QueryKey) : List Sample :=
  (results.lookup key).getD []

section Checked

variable {n m sum : UInt64} {s : Sample} {label value : String}

theorem addCount?_eq_some : addCount? n m = some sum ↔ sum.toNat = n.toNat + m.toNat := by
  unfold addCount?
  split
  · next hfit =>
    rw [Option.some_inj, ← UInt64.toNat_inj, UInt64.toNat_add, Nat.mod_eq_of_lt hfit, eq_comm]
  · next hlarge =>
    refine iff_of_false nofun fun hsum => hlarge ?_
    rw [← hsum]
    exact sum.toNat_lt

theorem addCount?_eq_none : addCount? n m = none ↔ 2 ^ 64 ≤ n.toNat + m.toNat := by
  unfold addCount?
  split
  · next hfit => exact iff_of_false nofun (Nat.not_le.mpr hfit)
  · next hlarge => exact iff_of_true rfl (Nat.not_lt.mp hlarge)

theorem addTo?_eq_some : s.addTo? label value n = some sum ↔
    sum.toNat = n.toNat + if s.label? label = some value then s.counter.toNat else 0 := by
  unfold Sample.addTo?
  split
  · exact addCount?_eq_some
  · rw [Option.some_inj, ← UInt64.toNat_inj, Nat.add_zero, eq_comm]

theorem addTo?_eq_none : s.addTo? label value n = none ↔
    s.label? label = some value ∧ 2 ^ 64 ≤ n.toNat + s.counter.toNat := by
  unfold Sample.addTo?
  split
  · next hlabel => rw [addCount?_eq_none, and_iff_right hlabel]
  · next hlabel => exact iff_of_false nofun fun h => hlabel h.1

end Checked

namespace RequestStats

variable {st st' : RequestStats} {key : QueryKey} {s : Sample} {c : Count}
  {samples : List (QueryKey × Sample)}

/-- A sample of requests is added to each count, and to nothing else. -/
theorem add?_request_eq_some {name : String} : st.add? (.request name) s = some st' ↔
    (∀ c : Count, s.addTo? c.label c.value (st.count c) = some (st'.count c)) ∧
      ∀ q, st'.latency q = st.latency q := by
  obtain ⟨_, _, _, _, _, _⟩ := st'
  simp only [add?, Option.bind_eq_bind, Option.bind_eq_some_iff, Option.some_inj, mk.injEq]
  constructor
  · rintro ⟨_, hsuccess, _, hfailure, _, htls, rfl, rfl, rfl, rfl, rfl, rfl⟩
    refine ⟨fun c => ?_, fun q => ?_⟩
    · cases c
      · exact hsuccess
      · exact hfailure
      · exact htls
    · cases q <;> rfl
  · rintro ⟨hcounts, hlatency⟩
    exact ⟨_, hcounts .success, _, hcounts .failure, _, hcounts .tls, rfl, rfl, rfl,
      (hlatency .p50).symm, (hlatency .p95).symm, (hlatency .p99).symm⟩

theorem add?_latency (st : RequestStats) (q : Quantile) (s : Sample) :
    ∃ st', st.add? (.latency q) s = some st' ∧ (∀ c, st'.count c = st.count c) ∧
      ∀ q', st'.latency q' = if q = q' then s.counter else st.latency q' := by
  cases q <;> exact ⟨_, rfl, fun c => by cases c <;> rfl, fun q' => by cases q' <;> rfl⟩

/-- A count grows by the value of a sample that it takes. -/
theorem count_add? (h : st.add? key s = some st') (c : Count) : (st'.count c).toNat =
    (st.count c).toNat + if c.takes (key, s) then s.counter.toNat else 0 := by
  cases key with
  | request name =>
    rw [addTo?_eq_some.mp ((add?_request_eq_some.mp h).1 c)]
    simp [Count.takes, QueryKey.isRequest]
  | latency q =>
    obtain ⟨_, hsome, hcounts, -⟩ := st.add?_latency q s
    cases hsome.symm.trans h
    rw [hcounts c]
    rfl

/-- A sample cannot be added exactly if a count that takes it grows too large. -/
theorem add?_eq_none : st.add? key s = none ↔
    ∃ c : Count, c.takes (key, s) = true ∧ 2 ^ 64 ≤ (st.count c).toNat + s.counter.toNat := by
  cases key with
  | request name =>
    have htakes (c : Count) :
        c.takes (.request name, s) = true ∧ 2 ^ 64 ≤ (st.count c).toNat + s.counter.toNat ↔
          s.addTo? c.label c.value (st.count c) = none := by
      rw [addTo?_eq_none]
      simp [Count.takes, QueryKey.isRequest]
    simp only [htakes]
    constructor
    · intro hnone
      by_contra hsome
      have hcounts (c : Count) :
          ∃ n, s.addTo? c.label c.value (st.count c) = some n :=
        Option.ne_none_iff_exists'.mp fun hc => hsome ⟨c, hc⟩
      choose n hn using hcounts
      have hadd : st.add? (.request name) s =
          some { st with success := n .success, failure := n .failure, tls := n .tls } :=
        add?_request_eq_some.mpr
          ⟨fun c => (hn c).trans (by cases c <;> rfl), fun q => by cases q <;> rfl⟩
      cases hnone.symm.trans hadd
    · rintro ⟨c, hc⟩
      rw [Option.eq_none_iff_forall_ne_some]
      intro st' hadd
      cases hc.symm.trans ((add?_request_eq_some.mp hadd).1 c)
  | latency q =>
    obtain ⟨_, hsome, -, -⟩ := st.add?_latency q s
    rw [hsome]
    exact iff_of_false nofun fun ⟨_, htakes, _⟩ => nomatch htakes

theorem latency_add? (h : st.add? key s = some st') (q : Quantile) :
    st'.latency q = if key = .latency q then s.counter else st.latency q := by
  cases key with
  | request name => exact (add?_request_eq_some.mp h).2 q
  | latency q' =>
    obtain ⟨_, hsome, -, hlatency⟩ := st.add?_latency q' s
    cases hsome.symm.trans h
    simp only [hlatency, QueryKey.latency.injEq]

/-- Adds the values of samples, one after the other. -/
def addAll? (st : RequestStats) (samples : List (QueryKey × Sample)) : Option RequestStats :=
  samples.foldlM (fun st x => st.add? x.1 x.2) st

theorem addAll?_cons (st : RequestStats) (x : QueryKey × Sample)
    (samples : List (QueryKey × Sample)) :
    st.addAll? (x :: samples) = (st.add? x.1 x.2).bind (·.addAll? samples) :=
  List.foldlM_cons

end RequestStats

section Totals

variable {st st' : RequestStats} {c : Count} {samples : List (QueryKey × Sample)}
  {label value : String}

theorem counted_cons (x : QueryKey × Sample) : counted label value (x :: samples) =
    (if x.1.isRequest && x.2.label? label == some value then x.2.counter.toNat else 0) +
      counted label value samples := by
  unfold counted
  rw [List.filter_cons]
  split
  · rw [List.map_cons, List.sum_cons]
  · rw [Nat.zero_add]

theorem counted_perm {samples' : List (QueryKey × Sample)} (h : samples.Perm samples') :
    counted label value samples = counted label value samples' :=
  ((h.filter _).map _).sum_eq

/-- What a count comes to stays the same while samples are added. -/
theorem Count.total_cons {x : QueryKey × Sample} (h : st.add? x.1 x.2 = some st') :
    c.total st (x :: samples) = c.total st' samples := by
  rw [total, total, counted_cons, RequestStats.count_add? h, Nat.add_assoc]
  rfl

/-- A count is the exact sum. -/
theorem RequestStats.count_addAll? (h : st.addAll? samples = some st') (c : Count) :
    (st'.count c).toNat = c.total st samples := by
  induction samples generalizing st with
  | nil =>
    cases h
    rfl
  | cons x samples ih =>
    rw [addAll?_cons, Option.bind_eq_some_iff] at h
    obtain ⟨st₁, hadd, hrest⟩ := h
    rw [ih hrest, Count.total_cons hadd]

/-- Samples cannot be added exactly if the sum of a count is too large. -/
theorem RequestStats.addAll?_eq_none :
    st.addAll? samples = none ↔ ∃ c : Count, 2 ^ 64 ≤ c.total st samples := by
  induction samples generalizing st with
  | nil => exact iff_of_false nofun fun ⟨c, hc⟩ => Nat.not_lt.mpr hc (st.count c).toNat_lt
  | cons x samples ih =>
    rw [addAll?_cons]
    cases hadd : st.add? x.1 x.2 with
    | none =>
      obtain ⟨c, htakes, hlarge⟩ := add?_eq_none.mp hadd
      refine iff_of_true rfl ⟨c, hlarge.trans ?_⟩
      rw [Count.total, counted_cons, ← Count.takes, if_pos htakes]
      omega
    | some st₁ => simp only [Option.bind_some, ih, Count.total_cons hadd]

theorem RequestStats.latency_addAll? (h : st.addAll? samples = some st') (q : Quantile) :
    st'.latency q =
      (((samples.filter (·.1 = .latency q)).getLast?).map (·.2.counter)).getD (st.latency q) := by
  induction samples generalizing st with
  | nil =>
    cases h
    rfl
  | cons x samples ih =>
    rw [addAll?_cons, Option.bind_eq_some_iff] at h
    obtain ⟨st₁, hadd, hrest⟩ := h
    rw [ih hrest, latency_add? hadd]
    split
    · next hx =>
      rw [List.filter_cons_of_pos (by simpa using hx), List.getLast?_cons]
      cases (samples.filter (·.1 = .latency q)).getLast? <;> rfl
    · next hx => rw [List.filter_cons_of_neg (by simpa using hx)]

end Totals

/-! ## What is added to a row -/

namespace SummaryRows

variable {k : Kind} {rows rows' : SummaryRows} {ns name : String} {key : QueryKey} {s : Sample}
  {results : List (QueryKey × List Sample)}

theorem stats_of_row? {r : SummaryRow} (h : rows.row? ns name = some r) :
    rows.stats ns name = r.stats.getD {} := by
  rw [stats, row_eq_getD, h, Option.getD_some]

/-- A sample changes the row that it belongs to. -/
theorem row?_addSample?_of_isOf (h : addSample? k key rows s = some rows')
    (hof : s.IsOf k ns name) : ∃ st, (rows.stats ns name).add? key s = some st ∧
      rows'.row? ns name = some { rows.row ns name with stats := some st } := by
  unfold addSample? at h
  rw [sampleRow?_eq_some.mpr hof] at h
  obtain ⟨st, hadd, rfl⟩ := Option.map_eq_some_iff.mp h
  exact ⟨st, hadd, (row?_set ..).trans (if_pos ⟨rfl, rfl⟩)⟩

/-- A sample changes no other row. -/
theorem row?_addSample?_of_not_isOf (h : addSample? k key rows s = some rows')
    (hother : ¬ s.IsOf k ns name) : rows'.row? ns name = rows.row? ns name := by
  unfold addSample? at h
  cases hrow : sampleRow? k s with
  | none =>
    rw [hrow] at h
    rw [← Option.some.inj h]
  | some row =>
    obtain ⟨ns', name'⟩ := row
    rw [hrow] at h
    obtain ⟨st, -, rfl⟩ := Option.map_eq_some_iff.mp h
    refine (row?_set ..).trans (if_neg ?_)
    rintro ⟨rfl, rfl⟩
    exact hother (sampleRow?_eq_some.mp hrow)

theorem addSample?_eq_none : addSample? k key rows s = none ↔
    ∃ ns name, s.IsOf k ns name ∧ (rows.stats ns name).add? key s = none := by
  unfold addSample?
  simp only [← sampleRow?_eq_some]
  cases sampleRow? k s with
  | none => simp
  | some row => simp [stats, Prod.ext_iff]

/-- When a sample has been added, what is still to be added to a row comes to the same. -/
theorem addAll?_filter_cons {x : QueryKey × Sample} (h : addSample? k x.1 rows x.2 = some rows')
    (samples : List (QueryKey × Sample)) (ns name : String) :
    (rows.stats ns name).addAll? ((x :: samples).filter fun x => x.2.IsOf k ns name) =
      (rows'.stats ns name).addAll? (samples.filter fun x => x.2.IsOf k ns name) := by
  by_cases hof : x.2.IsOf k ns name
  · obtain ⟨st, hadd, hrow⟩ := row?_addSample?_of_isOf h hof
    rw [List.filter_cons_of_pos (by simpa using hof), RequestStats.addAll?_cons, hadd,
      stats_of_row? hrow]
    rfl
  · have hstats : rows'.stats ns name = rows.stats ns name := by
      rw [stats, stats, row_eq_getD, row_eq_getD, row?_addSample?_of_not_isOf h hof]
    rw [List.filter_cons_of_neg (by simpa using hof), hstats]

theorem row?_foldlM_addSample? {samples : List (QueryKey × Sample)}
    (h : samples.foldlM (fun rows x => addSample? k x.1 rows x.2) rows = some rows')
    (ns name : String) :
    ∃ st, (rows.stats ns name).addAll? (samples.filter fun x => x.2.IsOf k ns name) = some st ∧
      rows'.row? ns name =
        if samples.filter (fun x => x.2.IsOf k ns name) = [] then rows.row? ns name
        else some { rows.row ns name with stats := some st } := by
  induction samples generalizing rows with
  | nil =>
    cases h
    exact ⟨_, rfl, rfl⟩
  | cons x samples ih =>
    rw [List.foldlM_cons, Option.bind_eq_bind, Option.bind_eq_some_iff] at h
    obtain ⟨rows₁, hadd, hrest⟩ := h
    obtain ⟨st, hst, hrow⟩ := ih hrest
    refine ⟨st, (addAll?_filter_cons hadd samples ns name).trans hst, hrow.trans ?_⟩
    by_cases hof : x.2.IsOf k ns name
    · obtain ⟨st₁, -, hrow₁⟩ := row?_addSample?_of_isOf hadd hof
      rw [List.filter_cons_of_pos (by simpa using hof), if_neg (List.cons_ne_nil _ _),
        row_eq_getD rows₁, hrow₁, Option.getD_some]
      split
      · next hnil =>
        rw [hnil, stats_of_row? hrow₁] at hst
        rw [← Option.some.inj hst]
        rfl
      · rfl
    · rw [List.filter_cons_of_neg (by simpa using hof), row_eq_getD rows₁,
        row?_addSample?_of_not_isOf hadd hof, ← row_eq_getD]

theorem foldlM_addSample?_eq_none {samples : List (QueryKey × Sample)} :
    samples.foldlM (fun rows x => addSample? k x.1 rows x.2) rows = none ↔ ∃ ns name,
      (rows.stats ns name).addAll? (samples.filter fun x => x.2.IsOf k ns name) = none := by
  induction samples generalizing rows with
  | nil => exact iff_of_false nofun fun ⟨_, _, h⟩ => nomatch h
  | cons x samples ih =>
    rw [List.foldlM_cons, Option.bind_eq_bind]
    cases hadd : addSample? k x.1 rows x.2 with
    | none =>
      obtain ⟨ns, name, hof, hnone⟩ := addSample?_eq_none.mp hadd
      refine iff_of_true rfl ⟨ns, name, ?_⟩
      rw [List.filter_cons_of_pos (by simpa using hof), RequestStats.addAll?_cons, hnone]
      rfl
    | some rows₁ => simp only [Option.bind_some, ih, addAll?_filter_cons hadd]

/-- A row comes to what the samples come to that belong to it, in their order. -/
theorem row?_addStats? (h : addStats? k rows results = some rows') (ns name : String) :
    ∃ st, (rows.stats ns name).addAll? (rowSamples k ns name results) = some st ∧
      rows'.row? ns name = if rowSamples k ns name results = [] then rows.row? ns name
        else some { rows.row ns name with stats := some st } := by
  rw [addStats?_eq_foldlM] at h
  exact row?_foldlM_addSample? h ns name

theorem stats_addStats? (h : addStats? k rows results = some rows') (ns name : String) :
    (rows.stats ns name).addAll? (rowSamples k ns name results) = some (rows'.stats ns name) := by
  obtain ⟨st, hst, hrow⟩ := row?_addStats? h ns name
  rw [hst, stats, row_eq_getD, hrow]
  split
  · next hnil =>
    rw [hnil] at hst
    rw [← row_eq_getD]
    exact hst.symm
  · rfl

/-- Samples cannot be added exactly if the sum of a count of some row is too large. -/
theorem addStats?_eq_none : addStats? k rows results = none ↔ ∃ ns name, ∃ c : Count,
    2 ^ 64 ≤ c.total (rows.stats ns name) (rowSamples k ns name results) := by
  rw [addStats?_eq_foldlM, foldlM_addSample?_eq_none]
  simp only [RequestStats.addAll?_eq_none]
  rfl

end SummaryRows

/-! ## Queries in any order -/

section Order

variable {k : Kind} {ns name : String} {key : QueryKey}
  {results results' : List (QueryKey × List Sample)}

theorem lookup_eq_some_iff (hkeys : (results.map (·.1)).Nodup) {ss : List Sample} :
    results.lookup key = some ss ↔ (key, ss) ∈ results := by
  induction results with
  | nil => simp
  | cons result results ih =>
    obtain ⟨key', ss'⟩ := result
    rw [List.map_cons, List.nodup_cons] at hkeys
    by_cases hkey : key = key'
    · subst hkey
      have hother : (key, ss) ∉ results :=
        fun h => hkeys.1 (List.mem_map.mpr ⟨(key, ss), h, rfl⟩)
      simp [List.lookup_cons_self, hother, eq_comm]
    · have hbeq : (key == key') = false := beq_false_of_ne hkey
      simp only [List.lookup_cons, hbeq, ih hkeys.2, List.mem_cons, Prod.mk.injEq, hkey,
        false_and, false_or]

theorem vector_perm (h : results.Perm results') (hkeys : (results.map (·.1)).Nodup) :
    vector results key = vector results' key := by
  have hlookup : results.lookup key = results'.lookup key := by
    refine Option.ext fun ss => ?_
    rw [lookup_eq_some_iff hkeys, lookup_eq_some_iff ((h.map _).nodup_iff.mp hkeys), h.mem_iff]
  rw [vector, vector, hlookup]

theorem filter_keyedSamples (hkeys : (results.map (·.1)).Nodup) :
    (keyedSamples results).filter (·.1 = key) = (vector results key).map (key, ·) := by
  induction results with
  | nil => rfl
  | cons result results ih =>
    obtain ⟨key', ss⟩ := result
    rw [List.map_cons, List.nodup_cons] at hkeys
    have hcons : keyedSamples ((key', ss) :: results) =
        ss.map (key', ·) ++ keyedSamples results := rfl
    rw [hcons, List.filter_append, ih hkeys.2, vector, vector]
    by_cases hkey : key = key'
    · subst hkey
      have hnone : results.lookup key = none := by
        rw [List.lookup_eq_none_iff]
        rintro ⟨key', ss'⟩ hmem
        exact bne_iff_ne.mpr fun h => hkeys.1 (List.mem_map.mpr ⟨(key', ss'), hmem, h.symm⟩)
      simp [List.lookup_cons_self, hnone, List.filter_map, Function.comp_def]
    · have hbeq : (key == key') = false := beq_false_of_ne hkey
      simp [List.lookup_cons, hbeq, Ne.symm hkey, List.filter_map, Function.comp_def]

theorem rowSamples_perm (k : Kind) (ns name : String) (h : results.Perm results') :
    (rowSamples k ns name results).Perm (rowSamples k ns name results') :=
  (h.flatMap_right _).filter _

end Order

/-! ## Sums -/

/-- The value of the last sample of a quantile that belongs to a row, zero if there is none. -/
def lastLatency (k : Kind) (ns name : String) (results : List (QueryKey × List Sample))
    (q : Quantile) : UInt64 :=
  (((vector results (.latency q)).filter (·.IsOf k ns name)).getLast?.map (·.counter)).getD 0

/-- The statistics are what the samples of a row come to: requests are counted by what their labels
say, and each latency is the last one. -/
structure RequestStats.Sums (st : RequestStats) (k : Kind) (ns name : String)
    (results : List (QueryKey × List Sample)) : Prop where
  success :
    st.success.toNat = counted "classification" "success" (rowSamples k ns name results)
  failure :
    st.failure.toNat = counted "classification" "failure" (rowSamples k ns name results)
  tls : st.tls.toNat = counted "tls" "true" (rowSamples k ns name results)
  latency (q : Quantile) : st.latency q = lastLatency k ns name results q

/-- The counts of a row fit into 64 bits. -/
structure CountsFit (k : Kind) (ns name : String) (results : List (QueryKey × List Sample)) :
    Prop where
  success : counted "classification" "success" (rowSamples k ns name results) < 2 ^ 64
  failure : counted "classification" "failure" (rowSamples k ns name results) < 2 ^ 64
  tls : counted "tls" "true" (rowSamples k ns name results) < 2 ^ 64

section Sums

variable {k : Kind} {ns name : String} {rows rows' rows'' : SummaryRows}
  {results results' : List (QueryKey × List Sample)}

theorem Count.total_empty (c : Count) (samples : List (QueryKey × Sample)) :
    c.total {} samples = counted c.label c.value samples := by
  have hzero : (RequestStats.count {} c).toNat = 0 := by cases c <;> rfl
  rw [total, hzero, Nat.zero_add]

theorem countsFit_iff : CountsFit k ns name results ↔
    ∀ c : Count, c.total {} (rowSamples k ns name results) < 2 ^ 64 := by
  simp only [Count.total_empty]
  constructor
  · rintro ⟨hsuccess, hfailure, htls⟩ (_ | _ | _)
    · exact hsuccess
    · exact hfailure
    · exact htls
  · exact fun h => ⟨h .success, h .failure, h .tls⟩

theorem sums_of_addAll? {st : RequestStats} (hkeys : (results.map (·.1)).Nodup)
    (h : ({} : RequestStats).addAll? (rowSamples k ns name results) = some st) :
    st.Sums k ns name results where
  success := (RequestStats.count_addAll? h .success).trans (Count.total_empty .success _)
  failure := (RequestStats.count_addAll? h .failure).trans (Count.total_empty .failure _)
  tls := (RequestStats.count_addAll? h .tls).trans (Count.total_empty .tls _)
  latency q := by
    -- what belongs to the row may be picked before or after what answers the query
    have hpicked : (rowSamples k ns name results).filter (·.1 = .latency q) =
        ((vector results (.latency q)).filter (·.IsOf k ns name)).map (.latency q, ·) := by
      rw [rowSamples, List.filter_comm, filter_keyedSamples hkeys, List.filter_map]
      rfl
    rw [RequestStats.latency_addAll? h, hpicked, List.getLast?_map, Option.map_map, lastLatency]
    cases q <;> rfl

theorem RequestStats.Sums.unique {st st' : RequestStats} (h : st.Sums k ns name results)
    (h' : st'.Sums k ns name results') (hperm : results.Perm results')
    (hkeys : (results.map (·.1)).Nodup) : st = st' := by
  have hsamples := rowSamples_perm k ns name hperm
  have hlatency (q : Quantile) : st.latency q = st'.latency q := by
    rw [h.latency, h'.latency, lastLatency, vector_perm hperm hkeys, ← lastLatency]
  obtain ⟨_, _, _, _, _, _⟩ := st
  obtain ⟨_, _, _, _, _, _⟩ := st'
  rw [RequestStats.mk.injEq]
  refine ⟨?_, ?_, ?_, hlatency .p50, hlatency .p95, hlatency .p99⟩
  · exact UInt64.toNat_inj.mp
      (h.success.trans ((counted_perm hsamples).trans h'.success.symm))
  · exact UInt64.toNat_inj.mp
      (h.failure.trans ((counted_perm hsamples).trans h'.failure.symm))
  · exact UInt64.toNat_inj.mp (h.tls.trans ((counted_perm hsamples).trans h'.tls.symm))

/-- Samples that belong to no row are left out. -/
theorem addStats?_filter_isLabelled (k : Kind) (rows : SummaryRows)
    (results : List (QueryKey × List Sample)) :
    addStats? k rows (results.map fun result => (result.1, result.2.filter (·.isLabelled k))) =
      addStats? k rows results := by
  have hskip (key : QueryKey) (rows : SummaryRows) (s : Sample) :
      (if s.isLabelled k then addSample? k key rows s else pure rows) =
        addSample? k key rows s := by
    split
    · rfl
    · next h =>
      rw [addSample?, sampleRow?_eq_none.mpr (Bool.eq_false_iff.mpr h)]
      rfl
  rw [addStats?, List.foldlM_map]
  simp only [List.foldlM_filter, hskip]
  rfl

theorem SummaryRows.stats_eq_empty
    (hrows : ∀ ns name r, rows.row? ns name = some r → r.stats = none) (ns name : String) :
    rows.stats ns name = {} := by
  cases hrow : rows.row? ns name with
  | none => rw [stats, row_eq_getD, hrow, Option.getD_none, Option.getD_none]
  | some r => rw [stats_of_row? hrow, hrows ns name r hrow, Option.getD_none]

/-- Where there are no statistics, samples cannot be added exactly if the counts of some row do not
fit. -/
theorem addStats?_eq_none_iff (hstats : ∀ ns name, rows.stats ns name = {}) :
    addStats? k rows results = none ↔ ∃ ns name, ¬ CountsFit k ns name results := by
  simp only [SummaryRows.addStats?_eq_none, hstats, countsFit_iff, not_forall, Nat.not_lt]

theorem row?_addStats?_sums (hrows : ∀ ns name r, rows.row? ns name = some r → r.stats = none)
    (hkeys : (results.map (·.1)).Nodup) (h : addStats? k rows results = some rows')
    (hsamples : rowSamples k ns name results ≠ []) :
    ∃ st, rows'.row? ns name = some { rows.row ns name with stats := some st } ∧
      st.Sums k ns name results := by
  obtain ⟨st, hst, hrow⟩ := SummaryRows.row?_addStats? h ns name
  rw [if_neg hsamples] at hrow
  rw [SummaryRows.stats_eq_empty hrows] at hst
  exact ⟨st, hrow, sums_of_addAll? hkeys hst⟩

theorem CountsFit.perm (h : CountsFit k ns name results) (hperm : results.Perm results') :
    CountsFit k ns name results' := by
  have hsamples := rowSamples_perm k ns name hperm
  exact ⟨counted_perm hsamples ▸ h.success, counted_perm hsamples ▸ h.failure,
    counted_perm hsamples ▸ h.tls⟩

/-- A count of a row is at most the sum of all values. -/
theorem countsFit_of_sum_lt (k : Kind) (ns name : String)
    (h : ((keyedSamples results).map (·.2.counter.toNat)).sum < 2 ^ 64) :
    CountsFit k ns name results := by
  have hle (label value : String) : counted label value (rowSamples k ns name results) ≤
      ((keyedSamples results).map (·.2.counter.toNat)).sum :=
    ((List.filter_sublist.trans List.filter_sublist).map _).sum_le_sum fun _ _ => Nat.zero_le _
  exact ⟨(hle _ _).trans_lt h, (hle _ _).trans_lt h, (hle _ _).trans_lt h⟩

theorem entries_addStats?_perm
    (hrows : ∀ ns name r, rows.row? ns name = some r → r.stats = none)
    (hkeys : (results.map (·.1)).Nodup) (hperm : results.Perm results')
    (h : addStats? k rows results = some rows') (h' : addStats? k rows results' = some rows'') :
    rows''.entries = rows'.entries := by
  refine SummaryRows.entries_ext fun ns name => ?_
  have hsamples := rowSamples_perm k ns name hperm
  by_cases hnil : rowSamples k ns name results = []
  · have hnil' : rowSamples k ns name results' = [] := (hnil ▸ hsamples).nil_eq.symm
    obtain ⟨_, -, hrow⟩ := SummaryRows.row?_addStats? h ns name
    obtain ⟨_, -, hrow'⟩ := SummaryRows.row?_addStats? h' ns name
    rw [hrow, hrow', if_pos hnil, if_pos hnil']
  · have hnil' : rowSamples k ns name results' ≠ [] := fun h => hnil (h ▸ hsamples).eq_nil
    obtain ⟨st, hrow, hst⟩ := row?_addStats?_sums hrows hkeys h hnil
    obtain ⟨st', hrow', hst'⟩ :=
      row?_addStats?_sums hrows ((hperm.map _).nodup_iff.mp hkeys) h' hnil'
    rw [hrow, hrow', hst.unique hst' hperm hkeys]

/-- Samples are added to rows that have no statistics. The order of the queries makes no difference.
A row to which no sample belongs stays as it is. Every other row gets the sums of what belongs to
it and the latest latencies, and is otherwise as before, or a new one. Samples that belong to no row
make no difference. -/
theorem addStats_sums (k : Kind) (rows : SummaryRows) (results : List (QueryKey × List Sample))
    (hrows : ∀ ns name r, rows.row? ns name = some r → r.stats = none)
    (hkeys : (results.map (·.1)).Nodup) (hfit : ∀ ns name, CountsFit k ns name results) :
    ∃ rows', addStats? k rows results = some rows' ∧
      (∀ results', results.Perm results' →
        ∃ rows'', addStats? k rows results' = some rows'' ∧ rows''.entries = rows'.entries) ∧
      (∀ ns name, rowSamples k ns name results = [] → rows'.row? ns name = rows.row? ns name) ∧
      (∀ ns name, rowSamples k ns name results ≠ [] →
        ∃ st, rows'.row? ns name = some { rows.row ns name with stats := some st } ∧
          st.Sums k ns name results) ∧
      addStats? k rows (results.map fun result => (result.1, result.2.filter (·.isLabelled k))) =
        some rows' := by
  have hsome (results : List (QueryKey × List Sample))
      (hfit : ∀ ns name, CountsFit k ns name results) :
      ∃ rows', addStats? k rows results = some rows' := by
    refine Option.ne_none_iff_exists'.mp fun hnone => ?_
    obtain ⟨ns, name, hlarge⟩ :=
      (addStats?_eq_none_iff (SummaryRows.stats_eq_empty hrows)).mp hnone
    exact hlarge (hfit ns name)
  obtain ⟨rows', h⟩ := hsome results hfit
  refine ⟨rows', h, fun results' hperm => ?_, fun ns name hnil => ?_,
    fun ns name => row?_addStats?_sums hrows hkeys h,
    (addStats?_filter_isLabelled k rows results).trans h⟩
  · obtain ⟨rows'', h'⟩ := hsome results' fun ns name => (hfit ns name).perm hperm
    exact ⟨rows'', h', entries_addStats?_perm hrows hkeys hperm h h'⟩
  · obtain ⟨_, -, hrow⟩ := SummaryRows.row?_addStats? h ns name
    rw [hrow, if_pos hnil]

end Sums

/-- Requests of one row are told of by two queries, and its latency twice by one. Another row has
only a latency and no pods, a third has pods only, and a sample without a namespace is in no row. -/
theorem addStats_sums_web :
    let sample (labels : List (String × String)) (n : Nat) : Sample :=
      ⟨labels, .finite false n 0, .zero false⟩
    let named (name : String) : List (String × String) :=
      [("namespace", "emojivoto"), ("deployment", name)]
    let rows := ((∅ : SummaryRows).set "emojivoto" "voting" { totalPods := 1 }).set
      "emojivoto" "web" { meshed := true, meshedPods := 1, totalPods := 2 }
    let results : List (QueryKey × List Sample) := [
      (.request "QUERY_REQUESTS",
        [sample (named "web" ++ [("classification", "success"), ("tls", "true")]) 10,
          sample [("deployment", "web"), ("classification", "success")] 99,
          sample (named "web" ++ [("classification", "failure")]) 2]),
      (.latency .p50, [sample (named "web") 7, sample (named "web") 5]),
      (.request "QUERY_RETRIES", [sample (named "web" ++ [("classification", "success")]) 3]),
      (.latency .p99, [sample (named "bot") 20])]
    let st : RequestStats := { success := 13, failure := 2, tls := 10, latencyP50 := 5 }
    (∀ ns name r, rows.row? ns name = some r → r.stats = none) ∧
    (results.map (·.1)).Nodup ∧ (∀ ns name, CountsFit .deployment ns name results) ∧
    (addStats? .deployment rows results.reverse).map (·.entries) = some [
      ("emojivoto", "bot", { stats := some { latencyP99 := 20 } }),
      ("emojivoto", "voting", { totalPods := 1 }),
      ("emojivoto", "web",
        { meshed := true, meshedPods := 1, totalPods := 2, stats := some st })] ∧
    st.Sums .deployment "emojivoto" "web" results := by
  intro sample named rows results st
  have hrows : ∀ ns name r, rows.row? ns name = some r → r.stats = none := by
    intro ns name r hrow
    simp only [rows, SummaryRows.row?_set] at hrow
    split at hrow
    · cases hrow
      rfl
    · split at hrow
      · cases hrow
        rfl
      · simp [SummaryRows.row?] at hrow
  have hkeys : (results.map (·.1)).Nodup := by decide
  have hfit : ∀ ns name, CountsFit .deployment ns name results :=
    fun ns name => countsFit_of_sum_lt .deployment ns name (by decide +kernel)
  obtain ⟨rows', h, horder, -, hsums, -⟩ := addStats_sums .deployment rows results hrows hkeys hfit
  have hentries : (addStats? .deployment rows results).map (·.entries) = some [
      ("emojivoto", "bot", { stats := some { latencyP99 := 20 } }),
      ("emojivoto", "voting", { totalPods := 1 }),
      ("emojivoto", "web",
        { meshed := true, meshedPods := 1, totalPods := 2, stats := some st })] := by
    decide +kernel
  refine ⟨hrows, hkeys, hfit, ?_, ?_⟩
  · obtain ⟨rows'', h', hsame⟩ := horder results.reverse results.reverse_perm.symm
    rw [h', Option.map_some, hsame, ← hentries, h, Option.map_some]
  · obtain ⟨st', hrow, hst'⟩ := hsums "emojivoto" "web" (by decide +kernel)
    have hweb : (addStats? .deployment rows results).bind (·.row? "emojivoto" "web") = some
        { meshed := true, meshedPods := 1, totalPods := 2, stats := some st } := by decide +kernel
    rw [h, Option.bind_some, hrow] at hweb
    rw [Option.some.inj (congrArg SummaryRow.stats (Option.some.inj hweb))] at hst'
    exact hst'

end MeshDestination.Traffic
