/-!
# Query templates

A template holds placeholders in braces. They are all replaced in one pass, so what is put in is
never looked at again; braces that are no placeholder stay.
-/

namespace MeshDestination.Traffic

/-- The quantiles of latency that are asked for. -/
inductive Quantile where
  | p50
  | p95
  | p99
  deriving DecidableEq

/-- Every quantile. -/
def Quantile.all : List Quantile := [.p50, .p95, .p99]

/-- The text of a quantile. -/
def Quantile.text : Quantile → String
  | .p50 => "0.5"
  | .p95 => "0.95"
  | .p99 => "0.99"

/-- What the placeholders of a template stand for. -/
structure Placeholders where
  labels : String
  window : String
  groupBy : String
  /-- Without a quantile its placeholder is none. -/
  quantile : Option Quantile

/-- The names of the placeholders with their values. -/
def Placeholders.values (p : Placeholders) : List (List Char × List Char) :=
  [("labels".toList, p.labels.toList), ("window".toList, p.window.toList),
    ("group_by".toList, p.groupBy.toList)] ++
    (p.quantile.map fun q => ("quantile".toList, q.text.toList)).toList

/-- The value of a placeholder. -/
def Placeholders.value? (p : Placeholders) (name : List Char) : Option (List Char) :=
  (p.values.find? (·.1 == name)).map (·.2)

/-- What stands between here and the next closing brace. -/
def untilBrace (s : List Char) : Option (List Char) :=
  if s.contains '\x7d' then some (s.takeWhile (· != '\x7d')) else none

/-- What stands behind the next closing brace. -/
def afterBrace (s : List Char) : List Char := (s.dropWhile (· != '\x7d')).drop 1

theorem length_afterBrace_le (s : List Char) : (afterBrace s).length ≤ s.length := by
  have := (List.dropWhile_sublist (fun c : Char => c != '\x7d') (l := s)).length_le
  simp only [afterBrace, List.length_drop]
  omega

/-- Replaces the placeholders of a template. -/
def renderFrom (p : Placeholders) : List Char → List Char
  | [] => []
  | c :: r =>
    if c = '\x7b' then
      match (untilBrace r).bind p.value? with
      | some value => value ++ renderFrom p (afterBrace r)
      | none => c :: renderFrom p r
    else c :: renderFrom p r
termination_by s => s.length
decreasing_by
  · have := length_afterBrace_le r
    simp only [List.length_cons]
    omega
  · simp
  · simp

/-- Replaces the placeholders of a template. -/
def renderTemplate (p : Placeholders) (template : String) : String :=
  String.ofList (renderFrom p template.toList)

end MeshDestination.Traffic
