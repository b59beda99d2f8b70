import MeshDestination.Proofs.Traffic.Batches

/-!
# Pods are counted once

A pod that is selected is counted in one row, that of its own namespace and of its namespace, its
name or its workload's name, as the kind is. Rows of pods count exactly the pods that belong to them
(`counts_podRows`), and samples add rows and statistics but leave counts as they are
(`SummaryRows.Counts.addStats?`). As the rows of a summary have distinct keys and every selected pod
has its row, the counts of a batch add up to the number of pods (`pods_counted_once`).
-/

namespace MeshDestination.Traffic

open Std

/-! ## Pods of a row -/

/-- The row that a pod is counted in, as namespace and name. -/
def PodOwner.row (pod : PodOwner) (k : Kind) : String × String := (pod.ns, podRowName k pod)

/-- Whether a pod's proxy reports. -/
def PodOwner.isMeshed (pod : PodOwner) (meshed : MeshedPods) : Bool := meshed.has pod.ns pod.name

/-- The pods that are counted in a row. -/
def rowPods (s : Selection) (ns name : String) (pods : List PodOwner) : List PodOwner :=
  (pods.filter s.selects).filter fun pod => pod.row s.kind = (ns, name)

namespace SummaryRow

/-- Counts pods, one after the other. -/
def addPods (r : SummaryRow) (meshed : MeshedPods) (pods : List PodOwner) : SummaryRow :=
  pods.foldl (fun r pod => r.addPod (pod.isMeshed meshed)) r

theorem addPods_eq (r : SummaryRow) (meshed : MeshedPods) (pods : List PodOwner) :
    r.addPods meshed pods =
      { r with
        meshed := r.meshed || pods.any (·.isMeshed meshed)
        meshedPods := r.meshedPods + pods.countP (·.isMeshed meshed)
        totalPods := r.totalPods + pods.length } := by
  induction pods generalizing r with
  | nil => simp [addPods]
  | cons pod pods ih =>
    rw [addPods, List.foldl_cons, ← addPods, ih]
    cases hpod : pod.isMeshed meshed <;> simp [addPod, hpod, Nat.add_assoc, Nat.add_comm 1]

/-- A row counts pods, and how many of them are meshed. It has a pod or statistics. -/
structure Counts (r : SummaryRow) (meshed : MeshedPods) (pods : List PodOwner) : Prop where
  totalPods : r.totalPods = pods.length
  meshedPods : r.meshedPods = pods.countP (·.isMeshed meshed)
  meshed : r.meshed = true ↔ 0 < r.meshedPods
  occupied : pods ≠ [] ∨ r.stats.isSome = true

theorem counts_addPods {meshed : MeshedPods} {pods : List PodOwner} (hpods : pods ≠ []) :
    (({} : SummaryRow).addPods meshed pods).Counts meshed pods where
  totalPods := by simp [addPods_eq]
  meshedPods := by simp [addPods_eq]
  meshed := by simp [addPods_eq]
  occupied := .inl hpods

end SummaryRow

/-! ## Rows with their pods -/

/-- The rows of a summary count the selected pods, each in the row that it belongs to. -/
structure SummaryRows.Counts (rows : SummaryRows) (meshed : MeshedPods) (s : Selection)
    (pods : List PodOwner) : Prop where
  covers : ∀ ns name, rowPods s ns name pods ≠ [] → (rows.row? ns name).isSome = true
  row : ∀ ns name r, rows.row? ns name = some r → r.Counts meshed (rowPods s ns name pods)

section Rows

variable {s : Selection} {meshed : MeshedPods} {pods : List PodOwner} {rows : SummaryRows}
  {ns name : String}

/-- A pod that is counted changes the row that it belongs to, and no other. -/
theorem row?_countPod (k : Kind) (rows : SummaryRows) (pod : PodOwner) :
    (rows.set pod.ns (podRowName k pod)
        ((rows.row pod.ns (podRowName k pod)).addPod (pod.isMeshed meshed))).row? ns name =
      if pod.row k = (ns, name) then some ((rows.row ns name).addPod (pod.isMeshed meshed))
      else rows.row? ns name := by
  rw [SummaryRows.row?_set]
  simp only [PodOwner.row, Prod.mk.injEq]
  split
  · next h => rw [h.1, h.2]
  · rfl

/-- A row counts the pods that belong to it. There is no row without a pod. -/
theorem row?_podRows (s : Selection) (pods : List PodOwner) (meshed : MeshedPods)
    (ns name : String) :
    (podRows s pods meshed).row? ns name =
      if rowPods s ns name pods = [] then none
      else some (({} : SummaryRow).addPods meshed (rowPods s ns name pods)) := by
  have hempty : (∅ : SummaryRows).row? ns name = none := by
    rw [SummaryRows.row?, TreeMap.getElem?_emptyc, Option.bind_none]
  have hrow := SummaryRows.row?_foldl (fun pod => pod.row s.kind = (ns, name))
    (fun r pod => r.addPod (pod.isMeshed meshed)) (row?_countPod s.kind) (pods.filter s.selects) ∅
  rw [SummaryRows.row_eq_getD, hempty] at hrow
  exact hrow

theorem counts_podRows (s : Selection) (pods : List PodOwner) (meshed : MeshedPods) :
    (podRows s pods meshed).Counts meshed s pods where
  covers ns name hpods := by rw [row?_podRows, if_neg hpods, Option.isSome_some]
  row ns name r hrow := by
    rw [row?_podRows] at hrow
    split at hrow
    · cases hrow
    · next hpods =>
      cases hrow
      exact SummaryRow.counts_addPods hpods

namespace SummaryRows

theorem Counts.rowPods_eq_nil (h : rows.Counts meshed s pods) (hnone : rows.row? ns name = none) :
    rowPods s ns name pods = [] := by
  by_contra hpods
  have hsome := h.covers ns name hpods
  rw [hnone] at hsome
  cases hsome

/-- Samples leave the counts of pods as they are. -/
theorem Counts.addStats? {rows' : SummaryRows} (h : rows.Counts meshed s pods) {k : Kind}
    {results : List (QueryKey × List Sample)} (hrows : addStats? k rows results = some rows') :
    rows'.Counts meshed s pods where
  covers ns name hpods := by
    obtain ⟨_, -, hrow⟩ := row?_addStats? hrows ns name
    rw [hrow]
    split
    · exact h.covers ns name hpods
    · rfl
  row ns name r hr := by
    obtain ⟨_, -, hrow⟩ := row?_addStats? hrows ns name
    rw [hrow] at hr
    split at hr
    · exact h.row ns name r hr
    · cases hr
      rw [row_eq_getD]
      cases hbefore : rows.row? ns name with
      | some r =>
        have hr := h.row ns name r hbefore
        exact ⟨hr.totalPods, hr.meshedPods, hr.meshed, .inr rfl⟩
      | none =>
        -- a row that is made for samples has no pods
        rw [h.rowPods_eq_nil hbefore]
        exact ⟨rfl, rfl, by simp, .inr rfl⟩

/-- The keys of the rows, ascending. -/
def keys (rows : SummaryRows) : List (String × String) :=
  rows.entries.map fun entry => (entry.1, entry.2.1)

theorem pairwise_keys (rows : SummaryRows) : rows.keys.Pairwise fun key key' =>
    Ascends (key.1, key.2, {}) (key'.1, key'.2, {}) :=
  List.pairwise_map.mpr ((pairwise_entries rows).imp id)

theorem nodup_keys (rows : SummaryRows) : rows.keys.Nodup :=
  (pairwise_keys rows).imp fun hlt heq => (heq ▸ hlt).asymm (heq ▸ hlt)

theorem mem_keys : (ns, name) ∈ rows.keys ↔ (rows.row? ns name).isSome = true := by
  rw [keys, List.mem_map, Option.isSome_iff_exists]
  constructor
  · rintro ⟨⟨ns', name', r⟩, hentry, hkey⟩
    cases hkey
    exact ⟨r, mem_entries.mp hentry⟩
  · rintro ⟨r, hrow⟩
    exact ⟨(ns, name, r), mem_entries.mpr hrow, rfl⟩

theorem keys_ext {rows' : SummaryRows}
    (h : ∀ ns name, (rows.row? ns name).isSome = (rows'.row? ns name).isSome) :
    rows.keys = rows'.keys := by
  have hperm : rows.keys.Perm rows'.keys := by
    refine (List.perm_ext_iff_of_nodup rows.nodup_keys rows'.nodup_keys).mpr fun key => ?_
    rw [mem_keys, mem_keys, h]
  exact hperm.eq_of_pairwise (fun _ _ _ _ hlt hlt' => absurd hlt' hlt.asymm)
    (pairwise_keys rows) (pairwise_keys rows')

end SummaryRows

end Rows

/-! ## Sums over the rows -/

section Sums

variable {α κ : Type} [DecidableEq κ] {key : α → κ} {xs : List α} {k : κ} {keys : List κ}

theorem countP_mem_cons (hk : k ∉ keys) : (xs.countP fun x => key x ∈ k :: keys) =
    (xs.countP fun x => key x = k) + xs.countP fun x => key x ∈ keys := by
  induction xs with
  | nil => rfl
  | cons x xs ih =>
    rw [List.countP_cons, List.countP_cons, List.countP_cons, ih]
    by_cases hx : key x = k
    · have hother : key x ∉ keys := hx ▸ hk
      simp [hx, hk]
      omega
    · simp [hx]
      omega

/-- What is counted for each of some distinct keys is counted once for all of them. -/
theorem sum_countP (hkeys : keys.Nodup) :
    (keys.map fun k => xs.countP fun x => key x = k).sum = xs.countP fun x => key x ∈ keys := by
  induction keys with
  | nil => simp
  | cons k keys ih =>
    obtain ⟨hk, hkeys⟩ := List.nodup_cons.mp hkeys
    rw [List.map_cons, List.sum_cons, ih hkeys, countP_mem_cons hk]

theorem sum_countP_eq_length (hkeys : keys.Nodup) (hxs : ∀ x ∈ xs, key x ∈ keys) :
    (keys.map fun k => xs.countP fun x => key x = k).sum = xs.length := by
  rw [sum_countP hkeys, List.countP_eq_length]
  exact fun x hx => decide_eq_true (hxs x hx)

end Sums

namespace SummaryRows

variable {s : Selection} {meshed : MeshedPods} {pods : List PodOwner} {rows : SummaryRows}

theorem Counts.row_mem_keys (h : rows.Counts meshed s pods) {pod : PodOwner} (hpod : pod ∈ pods)
    (hselected : s.selects pod = true) : pod.row s.kind ∈ rows.keys := by
  have hcounted : pod ∈ rowPods s pod.ns (podRowName s.kind pod) pods :=
    List.mem_filter.mpr ⟨List.mem_filter.mpr ⟨hpod, hselected⟩, decide_eq_true rfl⟩
  exact mem_keys.mpr (h.covers _ _ (List.ne_nil_of_mem hcounted))

/-- A count of the pods of each row adds up to that of all selected pods. -/
theorem Counts.sum_countP (h : rows.Counts meshed s pods) (p : PodOwner → Bool) :
    (rows.entries.map fun entry => (rowPods s entry.1 entry.2.1 pods).countP p).sum =
      (pods.filter s.selects).countP p := by
  have hrow (key : String × String) : (rowPods s key.1 key.2 pods).countP p =
      ((pods.filter s.selects).filter p).countP fun pod => pod.row s.kind = key := by
    rw [rowPods, List.countP_eq_length_filter, List.countP_eq_length_filter, List.filter_comm]
  have hkeyed : ∀ pod ∈ (pods.filter s.selects).filter p, pod.row s.kind ∈ rows.keys := by
    intro pod hpod
    obtain ⟨hmem, hselected⟩ := List.mem_filter.mp (List.mem_filter.mp hpod).1
    exact h.row_mem_keys hmem hselected
  calc (rows.entries.map fun entry => (rowPods s entry.1 entry.2.1 pods).countP p).sum
      = (rows.keys.map fun key =>
          ((pods.filter s.selects).filter p).countP fun pod => pod.row s.kind = key).sum := by
        rw [keys, List.map_map]
        exact congrArg List.sum (List.map_congr_left fun entry _ => hrow (entry.1, entry.2.1))
    _ = ((pods.filter s.selects).filter p).length := sum_countP_eq_length rows.nodup_keys hkeyed
    _ = (pods.filter s.selects).countP p := List.countP_eq_length_filter.symm

end SummaryRows

/-! ## Batches -/

/-- A batch counts every selected pod once. -/
structure SummaryBatch.CountsOnce (batch : SummaryBatch) (meshed : MeshedPods) (s : Selection)
    (pods : List PodOwner) : Prop where
  ascends : batch.rows.Pairwise SummaryRows.Ascends
  totalPods : (batch.rows.map (·.2.2.totalPods)).sum = (pods.filter s.selects).length
  meshedPods : (batch.rows.map (·.2.2.meshedPods)).sum =
    ((pods.filter s.selects).filter (·.isMeshed meshed)).length
  meshedPods_le : ∀ row ∈ batch.rows, row.2.2.meshedPods ≤ row.2.2.totalPods
  meshed : batch.kind ≠ .service → batch.kind ≠ .authority →
    ∀ row ∈ batch.rows, (row.2.2.meshed = true ↔ 0 < row.2.2.meshedPods)
  occupied : ∀ row ∈ batch.rows, 0 < row.2.2.totalPods ∨ row.2.2.stats.isSome = true

section Batches

variable {s : Selection} {meshed : MeshedPods} {pods : List PodOwner} {rows : SummaryRows}
  {k : Kind} {previous : Option SummaryBatch}

/-- The rows of a batch are those that were counted, but for what services and authorities are taken
for. -/
theorem rows_ofRows (k : Kind) (rows : SummaryRows) (previous : Option SummaryBatch) :
    (SummaryBatch.ofRows k rows previous).rows = rows.entries.map fun entry =>
      (entry.1, entry.2.1, { entry.2.2 with
        meshed := if k = .service ∨ k = .authority then
            inferredMeshed ((previous.map (·.rows.map (·.2.2))).getD [])
          else entry.2.2.meshed }) := by
  unfold SummaryBatch.ofRows
  split
  · rfl
  · exact (List.map_id _).symm

/-- A row of a batch counts the pods that belong to it. -/
theorem counts_of_mem_rows (h : rows.Counts meshed s pods) {row : String × String × SummaryRow}
    (hrow : row ∈ (SummaryBatch.ofRows k rows previous).rows) :
    ∃ inferred, (¬ (k = .service ∨ k = .authority) → row.2.2.meshed = inferred) ∧
      { row.2.2 with meshed := inferred }.Counts meshed (rowPods s row.1 row.2.1 pods) := by
  rw [rows_ofRows] at hrow
  obtain ⟨entry, hentry, rfl⟩ := List.mem_map.mp hrow
  exact ⟨entry.2.2.meshed, fun hk => if_neg hk,
    h.row _ _ _ (SummaryRows.mem_entries.mp hentry)⟩

theorem countsOnce_ofRows (h : rows.Counts meshed s pods) :
    (SummaryBatch.ofRows k rows previous).CountsOnce meshed s pods where
  ascends := by
    rw [rows_ofRows, List.pairwise_map]
    exact SummaryRows.pairwise_entries rows
  totalPods := by
    have hrow : ∀ entry ∈ rows.entries, entry.2.2.totalPods =
        (rowPods s entry.1 entry.2.1 pods).countP fun _ => true := fun entry hentry => by
      rw [List.countP_true, (h.row _ _ _ (SummaryRows.mem_entries.mp hentry)).totalPods]
    rw [rows_ofRows, List.map_map, ← congrFun List.countP_true, ← h.sum_countP]
    exact congrArg List.sum (List.map_congr_left hrow)
  meshedPods := by
    have hrow : ∀ entry ∈ rows.entries, entry.2.2.meshedPods =
        (rowPods s entry.1 entry.2.1 pods).countP (·.isMeshed meshed) := fun entry hentry =>
      (h.row _ _ _ (SummaryRows.mem_entries.mp hentry)).meshedPods
    rw [rows_ofRows, List.map_map, ← List.countP_eq_length_filter, ← h.sum_countP]
    exact congrArg List.sum (List.map_congr_left hrow)
  meshedPods_le row hrow := by
    obtain ⟨_, -, hcounts⟩ := counts_of_mem_rows h hrow
    rw [hcounts.totalPods, hcounts.meshedPods]
    exact List.countP_le_length
  meshed hservice hauthority row hrow := by
    rw [kind_ofRows] at hservice hauthority
    obtain ⟨inferred, hmeshed, hcounts⟩ := counts_of_mem_rows h hrow
    rw [hmeshed (not_or.mpr ⟨hservice, hauthority⟩)]
    exact hcounts.meshed
  occupied row hrow := by
    obtain ⟨_, -, hcounts⟩ := counts_of_mem_rows h hrow
    refine hcounts.occupied.imp_left fun hpods => ?_
    rw [hcounts.totalPods]
    exact List.length_pos_iff.mpr hpods

end Batches

/-- The batches of a summary count the pods of its plan once. -/
theorem SummaryPlan.Makes.countsOnce {p : SummaryPlan} {b : Backend} {pods : List PodOwner}
    {meshed : MeshedPods} {batch : SummaryBatch} (h : p.Makes b pods meshed batch) :
    batch.CountsOnce meshed (p.selection batch.kind) pods := by
  obtain ⟨results, rows, previous, -, hrows, hbatch⟩ := h
  rw [hbatch, kind_ofRows]
  exact countsOnce_ofRows ((counts_podRows _ pods meshed).addStats? hrows)

/-- A valid request whose queries succeed has a summary, unless a count of requests is too large. In
every batch of it each pod that is selected is counted in one row, and counted as meshed if its
proxy reports. Rows ascend by namespace and name; none has more meshed pods than pods, and none is
without both pods and statistics. A row is meshed if and only if a pod of it is, but for services and
authorities, of which that is inferred. -/
theorem pods_counted_once (b : Backend) (r : SummaryRequest) (pods : List PodOwner)
    (hvalid : r.Valid) (hqueries : ∀ q ∈ (summarize b r pods).queries, ¬ b.Fails q) :
    ∃ p meshed, r.plan = .ok p ∧ (askMeshed b r.ns).result = .ok meshed ∧
      (r.Overflows b ∧ (summarize b r pods).result = .error .crashed ∨
        ¬ r.Overflows b ∧ ∃ batches, (summarize b r pods).result = .ok batches ∧
          batches.map (·.kind) = p.kinds ∧
          ∀ batch ∈ batches, batch.CountsOnce meshed (p.selection batch.kind) pods) := by
  obtain ⟨p, meshed, hp, hmeshed, hcases⟩ := summarize_cases hvalid hqueries
  refine ⟨p, meshed, hp, hmeshed, hcases.imp_right ?_⟩
  rintro ⟨hkept, batches, hok, hkinds, hmade⟩
  exact ⟨hkept, batches, hok, hkinds, fun batch hbatch => (hmade batch hbatch).countsOnce⟩

/-- Two of the pods run a proxy that reports. The deployment of one has two pods, the other is of
another deployment, and a fourth pod belongs to none. -/
theorem pods_counted_once_web :
    let reporting (name : String) : Sample :=
      ⟨[("namespace", "emojivoto"), ("pod", name)], .zero false, .zero false⟩
    let traffic : Sample :=
      ⟨[("namespace", "emojivoto"), ("deployment", "bot")], .finite false 1 0, .zero false⟩
    let b : Backend := fun q => ⟨.samples (if q = meshedQuery "emojivoto" then
      [reporting "web-0", reporting "voting-0", reporting "vote-bot"] else [traffic]), 0⟩
    let r : SummaryRequest := { type := "deploy", ns := "emojivoto" }
    let pods : List PodOwner := [⟨"emojivoto", "web-0", "deployment", "web"⟩,
      ⟨"emojivoto", "voting-0", "deployment", "voting"⟩,
      ⟨"emojivoto", "web-1", "deployment", "web"⟩, ⟨"emojivoto", "vote-bot", "pod", "vote-bot"⟩]
    r.Valid ∧ (∀ q ∈ (summarize b r pods).queries, ¬ b.Fails q) ∧
      ∃ batch, (summarize b r pods).result = .ok [batch] ∧ batch.kind = .deployment ∧
        (batch.rows.map (·.2.2.totalPods)).sum = 3 ∧
        (batch.rows.map (·.2.2.meshedPods)).sum = 2 := by
  intro reporting traffic b r pods
  have hplan : r.plan = .ok ⟨[.deployment], "emojivoto", "", "1m", none⟩ := by decide +kernel
  have hvalid : r.Valid := SummaryRequest.valid_of_plan hplan
  have hqueries : ∀ q ∈ (summarize b r pods).queries, ¬ b.Fails q := fun q _ hfails =>
    hfails _ rfl
  have hreport := result_askMeshed b r.ns (congrArg Outcome.samples (if_pos rfl))
  have hfits : ¬ r.Overflows b := r.not_overflows fun q ss hss => by
    rw [← Outcome.samples.inj hss]
    split <;> decide +kernel
  obtain ⟨p, meshed, hp, hmeshed, ⟨hlost, -⟩ | ⟨-, batches, hok, hkinds, hcounts⟩⟩ :=
    pods_counted_once b r pods hvalid hqueries
  · exact absurd hlost hfits
  cases Except.ok.inj (hplan.symm.trans hp)
  cases Except.ok.inj (hreport.symm.trans hmeshed)
  obtain ⟨batch, rfl, hkind⟩ := List.map_eq_singleton_iff.mp hkinds
  have hbatch := hcounts batch (List.mem_singleton_self batch)
  rw [hkind] at hbatch
  refine ⟨hvalid, hqueries, batch, hok, hkind, hbatch.totalPods.trans ?_,
    hbatch.meshedPods.trans ?_⟩
  · decide +kernel
  · decide +kernel

end MeshDestination.Traffic
