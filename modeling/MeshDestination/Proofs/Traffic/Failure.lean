import MeshDestination.Proofs.Traffic.Gathering
import MeshDestination.Traffic.Summary

/-!
# Queries that fail

A request tells of it when a query fails that is sent for it: it ends in an error, and that of a
query (`Asked.Tells`). One query does so (`tells_ask`) and so do several at once
(`Inquiry.tells_ask`). It is kept when one request goes on from the result of another
(`Asked.Tells.andThen`), hence by the batches of a summary, whatever their kinds
(`SummaryPlan.tells_batches`).
-/

namespace MeshDestination.Traffic

/-- A query does not bring samples. -/
def Backend.Fails (b : Backend) (q : String) : Prop := ∀ ss, (b q).outcome ≠ .samples ss

/-- A failure of the metrics system, rather than of the request or of whoever waits for it. -/
def QueryError.IsForeign (e : QueryError) : Prop := e ≠ .crashed ∧ ∀ reason, e ≠ .invalid reason

/-- All failures are of the metrics system. A query that is sent alone does not die, since the
request would die with it. -/
structure Backend.Foreign (b : Backend) : Prop where
  failed : ∀ q e, (b q).outcome = .failed e → e.IsForeign
  alone : ∀ ns, (b (meshedQuery ns)).outcome ≠ .died

theorem Backend.Foreign.isForeign {b : Backend} (hb : b.Foreign) {q : String} {e : QueryError}
    (h : (b q).outcome.result = .error e) : e.IsForeign := by
  cases ho : (b q).outcome with
  | samples ss => simp [ho, Outcome.result] at h
  | failed e' =>
    obtain rfl : e' = e := by simpa [ho, Outcome.result] using h
    exact hb.failed q e' ho
  | died =>
    obtain rfl : QueryError.died = e := by simpa [ho, Outcome.result] using h
    exact ⟨by simp, by simp⟩

theorem Backend.fails_of_result {b : Backend} {q : String} {e : QueryError}
    (h : (b q).outcome.result = .error e) : b.Fails q := by
  intro ss hss
  simp [hss, Outcome.result] at h

/-- If a query fails that is sent for a request, the request ends in a failure of the metrics
system. -/
def Asked.Tells (b : Backend) (a : Asked α) : Prop :=
  ∀ q ∈ a.queries, b.Fails q → ∃ e, a.result = .error e ∧ e.IsForeign

variable {b : Backend}

theorem Asked.Tells.map {a : Asked α} (h : a.Tells b) (f : α → β) : (a.map f).Tells b := by
  intro q hq hfails
  obtain ⟨e, he, hforeign⟩ := h q hq hfails
  exact ⟨e, by simp [Asked.map, he, Except.map], hforeign⟩

theorem Asked.Tells.andThen {a : Asked α} (h : a.Tells b) {f : α → Asked β}
    (hf : ∀ x, a.result = .ok x → (f x).Tells b) : (a.andThen f).Tells b := by
  unfold Asked.andThen
  cases hr : a.result with
  | error e =>
    intro q hq hfails
    obtain ⟨e', he', hforeign⟩ := h q hq hfails
    cases hr.symm.trans he'
    exact ⟨e, rfl, hforeign⟩
  | ok x =>
    intro q hq hfails
    obtain hq | hq := List.mem_append.mp hq
    · obtain ⟨e, he, -⟩ := h q hq hfails
      cases hr.symm.trans he
    · exact hf x hr q hq hfails

theorem tells_ask (hb : b.Foreign) (ns : String) : (ask b (meshedQuery ns)).Tells b := by
  unfold ask
  cases ho : (b (meshedQuery ns)).outcome with
  | samples ss =>
    intro q hq hfails
    cases List.mem_singleton.mp hq
    exact absurd ho (hfails ss)
  | failed e => exact fun q _ _ => ⟨e, rfl, hb.failed _ _ ho⟩
  | died => exact absurd ho (hb.alone ns)

theorem tells_askMeshed (hb : b.Foreign) (ns : String) : (askMeshed b ns).Tells b :=
  (tells_ask hb ns).map _

theorem Inquiry.tells_ask (hb : b.Foreign) (i : Inquiry) : (i.ask b).Tells b := by
  intro query hquery hfails
  cases hr : (i.ask b).result with
  | ok results =>
    obtain ⟨q, hq, rfl⟩ := List.mem_map.mp hquery
    obtain ⟨ss, hss⟩ := i.samples_of_ask b hr q hq
    exact absurd hss (hfails ss)
  | error e =>
    obtain ⟨q, -, he⟩ := i.failed_of_ask b hr
    exact ⟨e, rfl, hb.isForeign he⟩

theorem SummaryPlan.tells_batches (hb : b.Foreign) (p : SummaryPlan) (pods : List PodOwner)
    (meshed : MeshedPods) (kinds : List Kind) :
    ∀ previous, (p.batches b pods meshed kinds previous).Tells b := by
  induction kinds with
  | nil => exact fun _ _ hq => nomatch hq
  | cons k kinds ih =>
    intro previous
    refine ((p.inquiry k).tells_ask hb).andThen fun results _ => ?_
    split
    · exact fun _ hq => nomatch hq
    · exact (ih _).map _

/-- A valid request for a summary tells of queries that fail. -/
theorem tells_summarize (hb : b.Foreign) {r : SummaryRequest} {p : SummaryPlan}
    (hp : r.plan = .ok p) (pods : List PodOwner) : (summarize b r pods).Tells b := by
  unfold summarize
  rw [hp]
  refine (tells_askMeshed hb p.ns).andThen fun meshed _ => ?_
  exact p.tells_batches hb pods meshed p.kinds none

end MeshDestination.Traffic
