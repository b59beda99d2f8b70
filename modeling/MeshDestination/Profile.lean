import MeshDestination.Duration
import MeshDestination.Pattern
import MeshDestination.Http.Method

/-!
# Profiles

How requests to a service are matched to routes, and how each route's responses are classified,
retried and timed out.
-/

namespace MeshDestination

open Number Http

/-- A condition on a request. -/
inductive RequestMatch where
  | all (ms : List RequestMatch)
  | any (ms : List RequestMatch)
  | not (m : RequestMatch)
  | path (p : Pattern)
  | method (m : Method)

/-- A condition on a response. The bounds of a status range are inclusive. -/
inductive ResponseMatch where
  | all (ms : List ResponseMatch)
  | any (ms : List ResponseMatch)
  | not (m : ResponseMatch)
  | status (min max : Nat)

/-- Responses that count as failures, or that do not. -/
structure ResponseClass where
  condition : ResponseMatch
  isFailure : Bool

/-- A route: the requests that belong to it and how they are treated. -/
structure RouteSpec where
  name : String
  condition : RequestMatch
  responseClasses : List ResponseClass
  isRetryable : Bool
  timeout : Option Duration

/-- How many retries a client may add to its requests. -/
structure RetryBudget where
  /-- In 32-bit format. -/
  retryRatio : Binary
  minRetriesPerSecond : Nat
  ttl : Duration

/-- The routes of a service, first match first, and its retry budget. -/
structure Profile where
  routes : List RouteSpec
  retryBudget : Option RetryBudget

/-! ## Equality

Profiles are compared by structure, patterns by text. Ratios are compared as numbers: zeros of both
signs are the same, and what is not a number differs from itself. -/

mutual
/-- Whether two request conditions are the same. -/
def RequestMatch.beq : RequestMatch → RequestMatch → Bool
  | .all a, .all b => RequestMatch.beqAll a b
  | .any a, .any b => RequestMatch.beqAll a b
  | .not a, .not b => RequestMatch.beq a b
  | .path a, .path b => a.text == b.text
  | .method a, .method b => a.token == b.token
  | _, _ => false

def RequestMatch.beqAll : List RequestMatch → List RequestMatch → Bool
  | [], [] => true
  | a :: r, b :: s => RequestMatch.beq a b && RequestMatch.beqAll r s
  | _, _ => false
end

mutual
/-- Whether two response conditions are the same. -/
def ResponseMatch.beq : ResponseMatch → ResponseMatch → Bool
  | .all a, .all b => ResponseMatch.beqAll a b
  | .any a, .any b => ResponseMatch.beqAll a b
  | .not a, .not b => ResponseMatch.beq a b
  | .status a b, .status c d => a == c && b == d
  | _, _ => false

def ResponseMatch.beqAll : List ResponseMatch → List ResponseMatch → Bool
  | [], [] => true
  | a :: r, b :: s => ResponseMatch.beq a b && ResponseMatch.beqAll r s
  | _, _ => false
end

/-- Whether two lists are the same, item by item. -/
def beqList (eq : α → α → Bool) : List α → List α → Bool
  | [], [] => true
  | a :: r, b :: s => eq a b && beqList eq r s
  | _, _ => false

/-- Whether two optional values are the same. -/
def beqOption (eq : α → α → Bool) : Option α → Option α → Bool
  | none, none => true
  | some a, some b => eq a b
  | _, _ => false

/-- Whether two response classes are the same. -/
def ResponseClass.beq (a b : ResponseClass) : Bool :=
  a.condition.beq b.condition && a.isFailure == b.isFailure

/-- Whether two routes are the same. -/
def RouteSpec.beq (a b : RouteSpec) : Bool :=
  a.name == b.name && a.condition.beq b.condition &&
    beqList ResponseClass.beq a.responseClasses b.responseClasses &&
    a.isRetryable == b.isRetryable && a.timeout == b.timeout

/-- Whether two budgets are the same. -/
def RetryBudget.beq (a b : RetryBudget) : Bool :=
  a.retryRatio.beq b.retryRatio && a.minRetriesPerSecond == b.minRetriesPerSecond && a.ttl == b.ttl

/-- Whether two profiles are the same. -/
def Profile.beq (a b : Profile) : Bool :=
  beqList RouteSpec.beq a.routes b.routes && beqOption RetryBudget.beq a.retryBudget b.retryBudget

end MeshDestination
