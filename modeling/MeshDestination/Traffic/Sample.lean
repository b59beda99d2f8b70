import MeshDestination.Json.Parser
import MeshDestination.Number.Decimal

/-!
# Samples

The samples that a query is answered with, the ways in which a query fails, and the answers of the
metrics system as documents.
-/

namespace MeshDestination.Traffic

open Number

/-- A sample: the labels it is for, its value, and its time in seconds. -/
structure Sample where
  metric : List (String × String)
  value : Binary
  timestamp : Binary

/-- The value of a label. -/
def Sample.label? (s : Sample) (name : String) : Option String :=
  (s.metric.find? (·.1 == name)).map (·.2)

/-- The value as a counter: rounded, a half away from zero, and kept within 64 bits. What is no
number counts nothing. -/
def Sample.counter (s : Sample) : UInt64 := s.value.toCounter

/-- Why a query has no samples. -/
inductive QueryError where
  /-- The request was refused before anything was asked. -/
  | invalid (reason : String)
  /-- There was no answer that could be read. -/
  | transport
  /-- The metrics system refused the query. -/
  | refused (kind message : String)
  /-- The answer is of another type. -/
  | unexpectedType (type : String)
  /-- The samples of the answer cannot be read. -/
  | malformed
  /-- The query died. -/
  | died
  /-- The request died, with a query of its own or over a count that grew too large. -/
  | crashed
  deriving DecidableEq

/-- The wording of a failure. -/
def QueryError.message : QueryError → String
  | .invalid reason => reason
  | .transport => "query failed"
  | .refused kind message => "query failed: " ++ kind ++ ": " ++ message
  | .unexpectedType type => "Unexpected query result type (expected Vector): " ++ type
  | .malformed => "failed to decode query result"
  | .died | .crashed => "query task failed"

/-! ## Answers as documents -/

/-- The value of a sample's text. Text that is no number stands for what is not a number. -/
def sampleValue (s : String) : Binary :=
  match parseDecimal .double s.toList with
  | .ok x => x
  | .error _ => .nan

/-- Reads the time and the value of a sample. -/
def timedValue? : Json → Option (Binary × Binary)
  | .arr [time, .str value] => (time.binary? .double).map (·, sampleValue value)
  | _ => none

/-- Reads an object from names to texts. -/
def metric? : Json → Option (List (String × String))
  | .obj fields => fields.mapM fun (n, j) => j.text?.map (n, ·)
  | _ => none

/-- Reads a sample. -/
def Sample.ofJson? (j : Json) : Option Sample :=
  match j.record? ["metric", "value"] with
  | some [metric, value] => do
    let metric ← Json.withDefault [] metric? metric
    let (timestamp, value) ← Json.required timedValue? value
    some { metric, value, timestamp }
  | _ => none

/-- How deeply the result of an answer may nest. -/
def maxResultDepth : Nat := 125

/-- The part of an answer that holds the result. -/
structure AnswerData where
  type : String
  result : Json

/-- Reads the part of an answer that holds the result, with fields in order. -/
def AnswerData.ofJson? (j : Json) : Option AnswerData :=
  match j.record? ["resultType", "result"] with
  | some [type, result] => do
    let type ← Json.required Json.text? type
    let result ← result
    if result.isSound && result.depth ≤ maxResultDepth then some ⟨type, result.normalize⟩
    else none
  | _ => none

/-- An answer of the metrics system. -/
structure QueryAnswer where
  status : String
  data : Option AnswerData
  errorType : Option String
  error : Option String

/-- Reads an answer. -/
def QueryAnswer.ofJson? (j : Json) : Option QueryAnswer :=
  match j.record? ["status", "data", "errorType", "error"] with
  | some [status, data, errorType, error] => do
    let status ← Json.required Json.text? status
    let data ← Json.optional AnswerData.ofJson? data
    let errorType ← Json.optional Json.text? errorType
    let error ← Json.optional Json.text? error
    some { status, data, errorType, error }
  | _ => none

/-- The samples of an answer. -/
def QueryAnswer.samples (a : QueryAnswer) : Except QueryError (List Sample) :=
  if a.status ≠ "success" then
    .error (.refused (a.errorType.getD "") (a.error.getD ""))
  else
    match a.data with
    | none => .error (.refused "bad_response" "missing data")
    | some data =>
      if data.type ≠ "vector" then .error (.unexpectedType data.type)
      else
        match data.result.items?.bind (·.mapM Sample.ofJson?) with
        | some samples => .ok samples
        | none => .error .malformed

/-- The samples of an answer as it was received. -/
def decodeAnswer (body : List UInt8) : Except QueryError (List Sample) :=
  match (Json.parseBytes body).bind QueryAnswer.ofJson? with
  | some a => a.samples
  | none => .error .transport

end MeshDestination.Traffic
