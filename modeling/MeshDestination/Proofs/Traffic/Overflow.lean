import MeshDestination.Proofs.Traffic.Tally

/-!
# Counts that overflow

The counts of a row are kept in 64 bits. A value that is too large, or infinite, is taken for the
largest number, but the sum of two values may still be too large, and then there are no rows at all.
This is so exactly if the exact sum of some count of some row is `2 ^ 64` or more. Else every count
is that sum, and at least every value that was added (`counts_exact`).
-/

namespace MeshDestination.Traffic

open Number

theorem counter_le_total {c : Count} {st : RequestStats} {samples : List (QueryKey × Sample)}
    {x : QueryKey × Sample} (hx : x ∈ samples) (htakes : c.takes x = true) :
    x.2.counter.toNat ≤ c.total st samples := by
  have hvalue : x.2.counter.toNat ∈
      ((samples.filter c.takes).map (·.2.counter.toNat)) :=
    List.mem_map_of_mem (List.mem_filter.mpr ⟨hx, htakes⟩)
  exact (List.single_le_sum (fun _ _ => Nat.zero_le _) _ hvalue).trans (Nat.le_add_left _ _)

theorem Count.total_perm {samples samples' : List (QueryKey × Sample)} (c : Count)
    (st : RequestStats) (h : samples.Perm samples') : c.total st samples = c.total st samples' := by
  rw [total, total, counted_perm h]

/-- Samples cannot be added exactly if what a count of some row is and all values that are added to
it come to `2 ^ 64` or more, whatever the order of the queries. Else every count is this sum, and at
least every value that was added. -/
theorem counts_exact (k : Kind) (rows : SummaryRows) (results : List (QueryKey × List Sample)) :
    let total (ns name : String) (c : Count) : Nat :=
      c.total (rows.stats ns name) (rowSamples k ns name results)
    (∀ results', results.Perm results' →
      (addStats? k rows results' = none ↔ ∃ ns name c, 2 ^ 64 ≤ total ns name c)) ∧
    ∀ rows', addStats? k rows results = some rows' → ∀ ns name c,
      ((rows'.stats ns name).count c).toNat = total ns name c ∧
      ∀ x ∈ rowSamples k ns name results, c.takes x = true →
        x.2.counter ≤ (rows'.stats ns name).count c := by
  intro total
  refine ⟨fun results' hperm => ?_, fun rows' h ns name c => ?_⟩
  · have htotal (ns name : String) (c : Count) :
        c.total (rows.stats ns name) (rowSamples k ns name results') = total ns name c :=
      (c.total_perm _ (rowSamples_perm k ns name hperm)).symm
    simp only [SummaryRows.addStats?_eq_none, htotal]
  · have hcount : ((rows'.stats ns name).count c).toNat = total ns name c :=
      RequestStats.count_addAll? (SummaryRows.stats_addStats? h ns name) c
    refine ⟨hcount, fun x hx htakes => ?_⟩
    rw [UInt64.le_iff_toNat_le, hcount]
    exact counter_le_total hx htakes

/-- Of two samples of encrypted requests, of successful and of failed ones, one is infinite and the
other tells of none. The counts of successes and of encrypted requests have the infinite one. -/
theorem counts_exact_web :
    let sample (classification : String) (value : Binary) : Sample :=
      ⟨[("namespace", "emojivoto"), ("deployment", "web"), ("classification", classification),
        ("tls", "true")], value, .zero false⟩
    let results : List (QueryKey × List Sample) := [(.request "QUERY_REQUESTS",
      [sample "success" (.infinite false), sample "failure" (.zero false)])]
    ∃ rows', addStats? .deployment ∅ results = some rows' ∧
      ((rows'.stats "emojivoto" "web").count .success).toNat = 2 ^ 64 - 1 ∧
      ((rows'.stats "emojivoto" "web").count .tls).toNat = 2 ^ 64 - 1 ∧
      ∀ x ∈ rowSamples .deployment "emojivoto" "web" results, Count.takes .tls x = true →
        x.2.counter ≤ (rows'.stats "emojivoto" "web").count .tls := by
  intro sample results
  have hsome : (addStats? .deployment ∅ results).isSome = true := by decide +kernel
  obtain ⟨rows', h⟩ := Option.isSome_iff_exists.mp hsome
  have hcounts := (counts_exact .deployment ∅ results).2 rows' h "emojivoto" "web"
  refine ⟨rows', h, (hcounts .success).1.trans ?_, (hcounts .tls).1.trans ?_, (hcounts .tls).2⟩
  · decide +kernel
  · decide +kernel

/-- Two infinite samples of successful requests in one row, as an answer may bring them, cannot be
added. -/
theorem infinite_counts_overflow :
    let sample (tls : String) : Sample :=
      ⟨[("namespace", "emojivoto"), ("deployment", "web"), ("classification", "success"),
        ("tls", tls)], sampleValue "+Inf", .zero false⟩
    let results : List (QueryKey × List Sample) :=
      [(.request "QUERY_REQUESTS", [sample "true", sample "no_identity"])]
    (∀ x ∈ rowSamples .deployment "emojivoto" "web" results,
      Count.takes .success x = true ∧ x.2.counter.toNat = 2 ^ 64 - 1) ∧
      addStats? .deployment ∅ results = none := by
  decide +kernel

end MeshDestination.Traffic
