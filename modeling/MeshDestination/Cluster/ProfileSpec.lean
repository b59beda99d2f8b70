import MeshDestination.Cluster.Object
import MeshDestination.Json.Basic

/-!
# Service profile resources

The resource that describes the routes of a service, and its JSON form. Writing leaves out what is
unset, false or empty; reading takes a missing field for just that. Lists of alternatives that are
set but empty, ranges without bounds and matches without fields are written and stay apart from
unset ones.
-/

namespace MeshDestination.Cluster

open Number

/-- A condition on a request as the resource states it. Any number of fields may be set. -/
structure RequestMatchSpec where
  all : Option (List RequestMatchSpec) := none
  any : Option (List RequestMatchSpec) := none
  not : Option RequestMatchSpec := none
  pathRegex : Option String := none
  method : Option String := none

/-- A range of status codes. An unset bound is open. -/
structure StatusRange where
  min : Option Nat := none
  max : Option Nat := none
  deriving DecidableEq

/-- A condition on a response as the resource states it. -/
structure ResponseMatchSpec where
  all : Option (List ResponseMatchSpec) := none
  any : Option (List ResponseMatchSpec) := none
  not : Option ResponseMatchSpec := none
  status : Option StatusRange := none

/-- A class of responses. -/
structure ResponseClassSpec where
  condition : ResponseMatchSpec
  isFailure : Bool := false

/-- A route. The timeout is a duration's text. -/
structure RouteSpec where
  name : String
  condition : RequestMatchSpec
  responseClasses : List ResponseClassSpec := []
  isRetryable : Bool := false
  timeout : Option String := none

/-- A retry budget. The time to live is a duration's text. -/
structure RetryBudgetSpec where
  retryRatio : Binary
  minRetriesPerSecond : Nat
  ttl : String

/-- What a service profile states. -/
structure ServiceProfileSpec where
  routes : List RouteSpec := []
  retryBudget : Option RetryBudgetSpec := none

/-- A service profile resource. -/
structure ServiceProfileObject where
  meta_ : ObjectMeta
  spec : ServiceProfileSpec

/-! ## Writing -/

/-- A field that is written when it is set. -/
def field? (name : String) (write : α → Json) : Option α → List (String × Json)
  | some a => [(name, write a)]
  | none => []

/-- A truth value that is written when it holds. -/
def flag (name : String) (b : Bool) : List (String × Json) :=
  if b then [(name, .bool true)] else []

mutual
/-- The JSON form of a request condition. -/
def RequestMatchSpec.toJson : RequestMatchSpec → Json
  | ⟨all, any, not, pathRegex, method⟩ =>
    .obj (RequestMatchSpec.listField "all" all ++ RequestMatchSpec.listField "any" any ++
      RequestMatchSpec.notField not ++ field? "pathRegex" .str pathRegex ++
      field? "method" .str method)

def RequestMatchSpec.listField (name : String) :
    Option (List RequestMatchSpec) → List (String × Json)
  | none => []
  | some ms => [(name, .arr (RequestMatchSpec.toJsonAll ms))]

def RequestMatchSpec.notField : Option RequestMatchSpec → List (String × Json)
  | none => []
  | some m => [("not", RequestMatchSpec.toJson m)]

def RequestMatchSpec.toJsonAll : List RequestMatchSpec → List Json
  | [] => []
  | m :: r => RequestMatchSpec.toJson m :: RequestMatchSpec.toJsonAll r
end

/-- The JSON form of a status range. -/
def StatusRange.toJson (s : StatusRange) : Json :=
  .obj (field? "min" Json.ofNat s.min ++ field? "max" Json.ofNat s.max)

mutual
/-- The JSON form of a response condition. -/
def ResponseMatchSpec.toJson : ResponseMatchSpec → Json
  | ⟨all, any, not, status⟩ =>
    .obj (ResponseMatchSpec.listField "all" all ++ ResponseMatchSpec.listField "any" any ++
      ResponseMatchSpec.notField not ++ field? "status" StatusRange.toJson status)

def ResponseMatchSpec.listField (name : String) :
    Option (List ResponseMatchSpec) → List (String × Json)
  | none => []
  | some ms => [(name, .arr (ResponseMatchSpec.toJsonAll ms))]

def ResponseMatchSpec.notField : Option ResponseMatchSpec → List (String × Json)
  | none => []
  | some m => [("not", ResponseMatchSpec.toJson m)]

def ResponseMatchSpec.toJsonAll : List ResponseMatchSpec → List Json
  | [] => []
  | m :: r => ResponseMatchSpec.toJson m :: ResponseMatchSpec.toJsonAll r
end

/-- The JSON form of a response class. -/
def ResponseClassSpec.toJson (c : ResponseClassSpec) : Json :=
  .obj (("condition", c.condition.toJson) :: flag "isFailure" c.isFailure)

/-- The JSON form of a route. -/
def RouteSpec.toJson (r : RouteSpec) : Json :=
  .obj ([("name", .str r.name), ("condition", r.condition.toJson)] ++
    (if r.responseClasses.isEmpty then []
      else [("responseClasses", .arr (r.responseClasses.map ResponseClassSpec.toJson))]) ++
    flag "isRetryable" r.isRetryable ++ field? "timeout" .str r.timeout)

/-- The JSON form of a retry budget. -/
def RetryBudgetSpec.toJson (b : RetryBudgetSpec) : Json :=
  .obj [("retryRatio", .ofBinary b.retryRatio),
    ("minRetriesPerSecond", .ofNat b.minRetriesPerSecond), ("ttl", .str b.ttl)]

/-- The JSON form of what a profile states. -/
def ServiceProfileSpec.toJson (s : ServiceProfileSpec) : Json :=
  .obj ((if s.routes.isEmpty then [] else [("routes", .arr (s.routes.map RouteSpec.toJson))]) ++
    field? "retryBudget" RetryBudgetSpec.toJson s.retryBudget)

/-! ## Reading -/

/-- Reads an array, item by item. -/
def list? (read : Json → Option α) (j : Json) : Option (List α) :=
  j.items?.bind (·.mapM read)

/-- Reads a request condition. The fuel bounds the nesting. -/
def RequestMatchSpec.read (fuel : Nat) (j : Json) : Option RequestMatchSpec :=
  match fuel with
  | 0 => none
  | fuel + 1 =>
    match j.record? ["all", "any", "not", "pathRegex", "method"] with
    | some [all, any, not, pathRegex, method] => do
      let all ← Json.optional (list? (RequestMatchSpec.read fuel)) all
      let any ← Json.optional (list? (RequestMatchSpec.read fuel)) any
      let not ← Json.optional (RequestMatchSpec.read fuel) not
      let pathRegex ← Json.optional Json.text? pathRegex
      let method ← Json.optional Json.text? method
      some { all, any, not, pathRegex, method }
    | _ => none

/-- Reads a request condition. -/
def RequestMatchSpec.ofJson? (j : Json) : Option RequestMatchSpec :=
  RequestMatchSpec.read (j.depth + 1) j

/-- Reads a status range. -/
def StatusRange.ofJson? (j : Json) : Option StatusRange :=
  match j.record? ["min", "max"] with
  | some [min, max] => do
    let min ← Json.optional (Json.nat? 65535) min
    let max ← Json.optional (Json.nat? 65535) max
    some { min, max }
  | _ => none

/-- Reads a response condition. The fuel bounds the nesting. -/
def ResponseMatchSpec.read (fuel : Nat) (j : Json) : Option ResponseMatchSpec :=
  match fuel with
  | 0 => none
  | fuel + 1 =>
    match j.record? ["all", "any", "not", "status"] with
    | some [all, any, not, status] => do
      let all ← Json.optional (list? (ResponseMatchSpec.read fuel)) all
      let any ← Json.optional (list? (ResponseMatchSpec.read fuel)) any
      let not ← Json.optional (ResponseMatchSpec.read fuel) not
      let status ← Json.optional StatusRange.ofJson? status
      some { all, any, not, status }
    | _ => none

/-- Reads a response condition. -/
def ResponseMatchSpec.ofJson? (j : Json) : Option ResponseMatchSpec :=
  ResponseMatchSpec.read (j.depth + 1) j

/-- Reads a response class. -/
def ResponseClassSpec.ofJson? (j : Json) : Option ResponseClassSpec :=
  match j.record? ["condition", "isFailure"] with
  | some [condition, isFailure] => do
    let condition ← Json.required ResponseMatchSpec.ofJson? condition
    let isFailure ← Json.withDefault false Json.bool? isFailure
    some { condition, isFailure }
  | _ => none

/-- Reads a route. -/
def RouteSpec.ofJson? (j : Json) : Option RouteSpec :=
  match j.record? ["name", "condition", "responseClasses", "isRetryable", "timeout"] with
  | some [name, condition, responseClasses, isRetryable, timeout] => do
    let name ← Json.required Json.text? name
    let condition ← Json.required RequestMatchSpec.ofJson? condition
    let responseClasses ← Json.withDefault [] (list? ResponseClassSpec.ofJson?) responseClasses
    let isRetryable ← Json.withDefault false Json.bool? isRetryable
    let timeout ← Json.optional Json.text? timeout
    some { name, condition, responseClasses, isRetryable, timeout }
  | _ => none

/-- Reads a retry budget. -/
def RetryBudgetSpec.ofJson? (j : Json) : Option RetryBudgetSpec :=
  match j.record? ["retryRatio", "minRetriesPerSecond", "ttl"] with
  | some [retryRatio, minRetriesPerSecond, ttl] => do
    let retryRatio ← Json.required (Json.binary? .single) retryRatio
    let minRetriesPerSecond ← Json.required (Json.nat? 4294967295) minRetriesPerSecond
    let ttl ← Json.required Json.text? ttl
    some { retryRatio, minRetriesPerSecond, ttl }
  | _ => none

/-- Reads what a profile states. -/
def ServiceProfileSpec.ofJson? (j : Json) : Option ServiceProfileSpec :=
  match j.record? ["routes", "retryBudget"] with
  | some [routes, retryBudget] => do
    let routes ← Json.withDefault [] (list? RouteSpec.ofJson?) routes
    let retryBudget ← Json.optional RetryBudgetSpec.ofJson? retryBudget
    some { routes, retryBudget }
  | _ => none

end MeshDestination.Cluster
