import MeshDestination.Api
import MeshDestination.Proofs.Traffic.Batches

/-!
# What the status of an answer tells

Requests to list pods and for a summary are refused, before anything is asked, exactly if their
body cannot be read or asks for what is not valid. Those that are not refused fail exactly if one
of the queries fails that are sent for them. All others are answered, but for a summary with a count
that is too large: its answer is lost (`graded_handle`).
-/

namespace MeshDestination.Api

open Traffic

variable {ρ α : Type} {b : Backend}

/-- What a body asks for, if it can be read. -/
def asked? (body : List UInt8) (empty : ρ) (read : Json → Option ρ) : Option ρ :=
  if body = [] then some empty else (Json.parseBytes body).bind read

/-- How an answer to what a body asks for is graded by its status. The answer to what is lost never
arrives, unless a query fails. -/
structure Response.Graded (rsp : Response) (b : Backend) (asked : Option ρ)
    (Valid Lost : ρ → Prop) : Prop where
  refused_iff : rsp.status = 400 ↔ asked = none ∨ ∃ q, asked = some q ∧ ¬ Valid q
  unasked : rsp.status = 400 → rsp.queries = []
  failed_iff : rsp.status = 502 ↔
    (∃ q, asked = some q ∧ Valid q) ∧ ∃ query ∈ rsp.queries, b.Fails query
  ok_iff : rsp.status = 200 ↔
    (∃ q, asked = some q ∧ Valid q ∧ ¬ Lost q) ∧ ∀ query ∈ rsp.queries, ¬ b.Fails query
  crashed_iff : rsp.crashed = true ↔
    (∃ q, asked = some q ∧ Valid q ∧ Lost q) ∧ ∀ query ∈ rsp.queries, ¬ b.Fails query

theorem respond_of_isForeign {a : Asked α} {toJson : α → Json} {e : QueryError}
    (hr : a.result = .error e) (he : e.IsForeign) :
    respond a toJson = failure 502 e.message a.queries := by
  unfold respond
  rw [hr]
  cases e with
  | invalid reason => exact absurd rfl (he.2 reason)
  | crashed => exact absurd rfl he.1
  | transport | refused | unexpectedType | malformed | died => rfl

section Grades

variable {asked : Option ρ} {Valid Lost : ρ → Prop}

theorem graded_refused (reason : String)
    (h : asked = none ∨ ∃ q, asked = some q ∧ ¬ Valid q) :
    (failure 400 reason []).Graded b asked Valid Lost := by
  have hnone : ¬ ∃ q, asked = some q ∧ Valid q := by
    rintro ⟨q, hq, hvalid⟩
    obtain h | ⟨q', hq', hinvalid⟩ := h
    · cases hq.symm.trans h
    · cases hq.symm.trans hq'
      exact hinvalid hvalid
  have hvalid (P : ρ → Prop) : ¬ ∃ q, asked = some q ∧ Valid q ∧ P q :=
    fun ⟨q, hq, hvalid, _⟩ => hnone ⟨q, hq, hvalid⟩
  exact ⟨by simpa [failure] using h, fun _ => rfl, by simp [failure, hnone],
    by simp [failure, hvalid], by simp [failure, hvalid]⟩

theorem graded_respond {a : Asked α} (q : ρ) (hvalid : Valid q) (htells : a.Tells b)
    (hanswered : a.Answered b (Lost q)) (toJson : α → Json) :
    (respond a toJson).Graded b (some q) Valid Lost := by
  by_cases hfails : ∃ query ∈ a.queries, b.Fails query
  · obtain ⟨query, hquery, hfailed⟩ := hfails
    obtain ⟨e, he, hforeign⟩ := htells query hquery hfailed
    rw [respond_of_isForeign he hforeign]
    have hsome : ∃ query ∈ a.queries, b.Fails query := ⟨query, hquery, hfailed⟩
    have hnot : ¬ ∀ query ∈ a.queries, ¬ b.Fails query := fun h => h query hquery hfailed
    exact ⟨by simp [failure, hvalid], by simp [failure], by simp [failure, hvalid, hsome],
      by simp [failure, hnot], by simp [failure, hnot]⟩
  · have hqueries : ∀ query ∈ a.queries, ¬ b.Fails query := fun query hquery h =>
      hfails ⟨query, hquery, h⟩
    obtain ⟨hkept, x, hx⟩ | ⟨hlost, hcrashed⟩ := hanswered hqueries
    · have hrespond : respond a toJson =
          { status := 200, body := some (toJson x), queries := a.queries } := by
        simp [respond, hx]
      rw [hrespond]
      exact ⟨by simp [hvalid], by simp, by simp [hfails],
        by simpa [hvalid, hkept] using hqueries, by simp [hkept]⟩
    · have hrespond : respond a toJson =
          { status := 500, queries := a.queries, crashed := true } := by
        simp [respond, hcrashed]
      rw [hrespond]
      exact ⟨by simp [hvalid], by simp, by simp [hfails], by simp [hlost],
        by simpa [hvalid, hlost] using hqueries⟩

/-- A body that cannot be read is refused, and any other is answered by what it asks for. -/
theorem graded_withBody (body : List UInt8) (empty : ρ) (read : Json → Option ρ)
    {answer : ρ → Response} (h : ∀ q, (answer q).Graded b (some q) Valid Lost) :
    (withBody body empty read answer).Graded b (asked? body empty read) Valid Lost := by
  unfold withBody asked?
  cases body with
  | nil => exact h empty
  | cons byte rest =>
    rw [List.isEmpty_cons, if_neg (by decide), if_neg (by simp)]
    cases (Json.parseBytes (byte :: rest)).bind read with
    | none => exact graded_refused malformedBody (.inl rfl)
    | some q => exact h q

end Grades

theorem graded_listPods (ix : Index) (st : Settings) (hb : b.Foreign) (q : ListPodsRequest)
    (toJson : List ListedPod → Json) :
    (respond (listPods ix st b q) toJson).Graded b (some q) ListPodsRequest.Valid
      fun _ => False := by
  obtain ⟨selection, hs, hvalid⟩ | ⟨reason, hs, hbad⟩ := q.selection_cases
  · have hlist : listPods ix st b q = (askMeshed b q.namespaceText).map (listedPods st
        (ix.pods.list (if q.namespaceText.isEmpty then none else some q.namespaceText))
        selection) := by
      simp only [listPods, hs]
    rw [hlist]
    exact graded_respond q hvalid ((tells_askMeshed hb _).map _)
      (((answered_ask b _).map _).map _) toJson
  · have hrefused : respond (listPods ix st b q) toJson = failure 400 reason [] := by
      simp [respond, listPods, hs]
    rw [hrefused]
    exact graded_refused reason (.inr ⟨q, rfl, hbad⟩)

theorem graded_summarize (hb : b.Foreign) (pods : List PodOwner) (q : SummaryRequest)
    (toJson : List SummaryBatch → Json) :
    (respond (summarize b q pods) toJson).Graded b (some q) SummaryRequest.Valid
      (·.Overflows b) := by
  obtain ⟨plan, hp, hvalid⟩ | ⟨reason, hp, hbad⟩ := q.plan_cases
  · exact graded_respond q hvalid (tells_summarize hb hp pods)
      (answered_summarize b hvalid pods) toJson
  · have hrefused : respond (summarize b q pods) toJson = failure 400 reason [] := by
      simp [respond, summarize, hp]
    rw [hrefused]
    exact graded_refused reason (.inr ⟨q, rfl, hbad⟩)

theorem graded_handle_listPods (ix : Index) (st : Settings) (hb : b.Foreign) {r : Request}
    (hpost : r.method = "POST") (hpath : r.path = "/api/v1/ListPods") :
    (handle ix st b r).Graded b (asked? r.body {} ListPodsRequest.ofJson?)
      ListPodsRequest.Valid fun _ => False := by
  have h := graded_withBody r.body {} ListPodsRequest.ofJson? fun q =>
    graded_listPods ix st hb q fun pods => .obj [("pods", .arr (pods.map ListedPod.toJson))]
  simpa [handle, hpost, hpath] using h

theorem graded_handle_statSummary (ix : Index) (st : Settings) (hb : b.Foreign) {r : Request}
    (hpost : r.method = "POST") (hpath : r.path = "/api/v1/StatSummary") :
    (handle ix st b r).Graded b (asked? r.body {} SummaryRequest.ofJson?)
      SummaryRequest.Valid (·.Overflows b) := by
  have h := graded_withBody r.body {} SummaryRequest.ofJson? fun q =>
    graded_summarize hb ((ix.pods.list none).map podOwner) q summaryJson
  simpa [handle, hpost, hpath] using h

/-- Whatever the index, requests are refused exactly if they are not valid, and before anything is
asked. Others fail exactly if a query fails. All that are neither refused nor fail are answered, but
for a summary of which a count is too large: its answer is lost. -/
theorem graded_handle (ix : Index) (st : Settings) (hb : b.Foreign) (r : Request)
    (hpost : r.method = "POST") :
    (r.path = "/api/v1/ListPods" →
      (handle ix st b r).Graded b (asked? r.body {} ListPodsRequest.ofJson?)
        ListPodsRequest.Valid fun _ => False) ∧
    (r.path = "/api/v1/StatSummary" →
      (handle ix st b r).Graded b (asked? r.body {} SummaryRequest.ofJson?)
        SummaryRequest.Valid (·.Overflows b)) :=
  ⟨graded_handle_listPods ix st hb hpost, graded_handle_statSummary ix st hb hpost⟩

/-- When no query is answered, a request to list pods fails at the first one, and a request for a
summary that names no type is refused without any. -/
theorem graded_handle_unreachable :
    let b : Backend := fun _ => { outcome := .failed .transport }
    (handle {} {} b ⟨"POST", "/api/v1/ListPods", []⟩).status = 502 ∧
      (handle {} {} b ⟨"POST", "/api/v1/StatSummary", []⟩).status = 400 := by
  intro b
  have hb : b.Foreign := by
    refine ⟨?_, by simp [b]⟩
    rintro q _ ⟨⟩
    exact ⟨by simp, by simp⟩
  have hpods := (graded_handle {} {} hb ⟨"POST", "/api/v1/ListPods", []⟩ rfl).1 (by decide)
  have hsummary := (graded_handle {} {} hb ⟨"POST", "/api/v1/StatSummary", []⟩ rfl).2 (by decide)
  constructor
  · refine hpods.failed_iff.mpr ⟨⟨{}, rfl, ?_⟩, meshedQuery "", ?_, ?_⟩
    · rintro type ⟨⟩
    · exact List.mem_singleton_self _
    · simp [b, Backend.Fails]
  · refine hsummary.refused_iff.mpr (.inr ⟨{}, rfl, ?_⟩)
    intro hvalid
    have hnamed : ¬ Kind.IsName "" := Kind.ofName?_eq_none.mp (by decide)
    exact hvalid.type.elim (by decide) hnamed

/-- All queries are answered with two infinite samples of successful requests to a deployment. The
answer to a valid request for a summary of deployments is lost, although no query fails. -/
theorem handle_crashed_infinite :
    let sample (tls : String) : Sample :=
      ⟨[("namespace", "emojivoto"), ("deployment", "web"), ("classification", "success"),
        ("tls", tls)], sampleValue "+Inf", .zero false⟩
    let b : Backend := fun _ => { outcome := .samples [sample "true", sample "no_identity"] }
    let r : Request :=
      ⟨"POST", "/api/v1/StatSummary", "\x7b\"type\":\"deploy\"\x7d".toUTF8.data.toList⟩
    b.Foreign ∧ asked? r.body {} SummaryRequest.ofJson? = some { type := "deploy" } ∧
      SummaryRequest.Valid { type := "deploy" } ∧
      (∀ query ∈ (handle {} {} b r).queries, ¬ b.Fails query) ∧
      (handle {} {} b r).status ≠ 200 ∧ (handle {} {} b r).crashed = true := by
  intro sample b r
  let q : SummaryRequest := { type := "deploy" }
  have hplan : q.plan = .ok ⟨[.deployment], "", "", "1m", none⟩ := by decide +kernel
  have hasked : asked? r.body {} SummaryRequest.ofJson? = some q := by decide +kernel
  have hb : b.Foreign := ⟨nofun, fun _ => nofun⟩
  have hqueries : ∀ query, ¬ b.Fails query := fun _ hfails => hfails _ rfl
  have hlost : q.Overflows b := by
    refine (SummaryRequest.overflows_iff hplan).mpr ⟨.deployment, List.mem_singleton_self _, ?_⟩
    refine (SummaryPlan.overflows_iff fun _ _ => rfl).mpr ⟨"emojivoto", "web", fun hfit => ?_⟩
    exact absurd hfit.success (by decide +kernel)
  have hgraded := graded_handle_statSummary {} {} hb (r := r) rfl (by decide)
  rw [hasked] at hgraded
  have hvalid : q.Valid := SummaryRequest.valid_of_plan hplan
  refine ⟨hb, hasked, hvalid, fun query _ => hqueries query, fun hok => ?_,
    hgraded.crashed_iff.mpr ⟨⟨q, rfl, hvalid, hlost⟩, fun query _ => hqueries query⟩⟩
  obtain ⟨⟨_, heq, -, hkept⟩, -⟩ := hgraded.ok_iff.mp hok
  cases heq
  exact hkept hlost

end MeshDestination.Api
