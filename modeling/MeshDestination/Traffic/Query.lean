import MeshDestination.Traffic.Labels
import MeshDestination.Traffic.Sample
import MeshDestination.Traffic.Template

/-!
# Queries

Queries to the metrics system, alone or several at once. Queries that are sent together are all
waited for, in whatever order they complete; if some fail, the failure that came first is the
answer.
-/

namespace MeshDestination.Traffic

/-- What comes of a query in the end. -/
inductive Outcome where
  | samples (ss : List Sample)
  | failed (e : QueryError)
  /-- Whoever waits for the query is gone too. -/
  | died

/-- The answer to a query, and how late it comes compared with others. -/
structure Answer where
  outcome : Outcome
  delay : Nat := 0

/-- What answers queries. -/
abbrev Backend := String → Answer

/-- A result with the queries that were sent for it, oldest first. -/
structure Asked (α : Type) where
  result : Except QueryError α
  queries : List String := []

/-- Goes on with a result that is there. -/
def Asked.andThen (a : Asked α) (f : α → Asked β) : Asked β :=
  match a.result with
  | .ok x => let b := f x; ⟨b.result, a.queries ++ b.queries⟩
  | .error e => ⟨.error e, a.queries⟩

/-- A change of the result that sends nothing. -/
def Asked.map (f : α → β) (a : Asked α) : Asked β := ⟨a.result.map f, a.queries⟩

/-- Sends one query. -/
def ask (b : Backend) (query : String) : Asked (List Sample) :=
  match (b query).outcome with
  | .samples ss => ⟨.ok ss, [query]⟩
  | .failed e => ⟨.error e, [query]⟩
  | .died => ⟨.error .crashed, [query]⟩

/-! ## Several at once -/

/-- The queries of one summary. -/
inductive QueryKey where
  | request (name : String)
  | latency (q : Quantile)
  deriving DecidableEq

/-- The result of a query that others were sent with. -/
def Outcome.result : Outcome → Except QueryError (List Sample)
  | .samples ss => .ok ss
  | .failed e => .error e
  | .died => .error .died

/-- A query that others are sent with: what it is for, and its text. -/
abbrev KeyedQuery := QueryKey × String

/-- Queries that were sent together, while they complete. -/
structure Gathering where
  /-- The queries that are still out. -/
  waiting : List KeyedQuery
  /-- What the queries brought that succeeded, in the order in which they completed. -/
  results : List (QueryKey × List Sample) := []
  /-- The failure that came first. -/
  failure : Option QueryError := none

namespace Gathering

/-- A query completes. Its samples replace those of an earlier one with the same key; a failure
counts if it is the first. -/
def receive (g : Gathering) (query : KeyedQuery) (o : Outcome) : Gathering :=
  let waiting := g.waiting.erase query
  match o.result with
  | .ok ss => { g with waiting, results := g.results.filter (·.1 ≠ query.1) ++ [(query.1, ss)] }
  | .error e => { g with waiting, failure := g.failure.or (some e) }

/-- Queries complete, one after the other. -/
def receiveAll (g : Gathering) (answers : List (KeyedQuery × Outcome)) : Gathering :=
  answers.foldl (fun g (query, o) => g.receive query o) g

/-- What the queries come to that have completed. -/
def result (g : Gathering) : Except QueryError (List (QueryKey × List Sample)) :=
  match g.failure with
  | some e => .error e
  | none => .ok g.results

/-- What is returned. Nothing is, while a query is out. -/
def result? (g : Gathering) : Option (Except QueryError (List (QueryKey × List Sample))) :=
  if g.waiting.isEmpty then some g.result else none

end Gathering

/-- What is asked for at once: named templates for requests, one for latencies, and what their
placeholders stand for. -/
structure Inquiry where
  /-- Ascending by name. -/
  requests : List (String × String)
  latency : String
  labels : LabelSet
  window : String
  groupBy : List String

/-- What the placeholders of a query stand for. -/
def Inquiry.placeholders (i : Inquiry) (quantile : Option Quantile) : Placeholders :=
  ⟨i.labels.text, i.window, groupText i.groupBy, quantile⟩

/-- The queries to send, in order. -/
def Inquiry.queries (i : Inquiry) : List (QueryKey × String) :=
  (i.requests.map fun (name, template) =>
    (.request name, renderTemplate (i.placeholders none) template)) ++
  Quantile.all.map fun q => (.latency q, renderTemplate (i.placeholders (some q)) i.latency)

/-- All queries are sent at once. -/
def Inquiry.sent (i : Inquiry) : Gathering := { waiting := i.queries }

/-- How the queries complete, the earliest first. Of those that take the same time the one that was
sent first completes first. -/
def Inquiry.completions (b : Backend) (i : Inquiry) : List (KeyedQuery × Outcome) :=
  let answers := i.queries.map fun query => (query, b query.2)
  (answers.mergeSort fun x y => x.2.delay ≤ y.2.delay).map fun (query, a) => (query, a.outcome)

/-- Sends all queries and waits for all answers. -/
def Inquiry.ask (b : Backend) (i : Inquiry) : Asked (List (QueryKey × List Sample)) where
  result := (i.sent.receiveAll (i.completions b)).result
  queries := i.queries.map (·.2)

end MeshDestination.Traffic
