import MeshDestination.Profile
import MeshDestination.Cluster.ProfileSpec
import MeshDestination.Text.Letters

/-!
# Profiles from resources

A profile takes from its resource the routes that can be used, in order, and the retry budget if
that can be used. A match with several fields set asks for all of them. A duration that is well
formed but out of range is a fault of the whole resource.
-/

namespace MeshDestination

open Http Cluster Text

/-- Why a part of a resource is not used. -/
inductive ProfileFault where
  /-- The part cannot be used; the rest can. -/
  | unusable
  /-- A duration is out of range. -/
  | overflow
  deriving DecidableEq

/-- The conjunction of what a match's fields say; one alone stands for itself, and there must be
one. -/
def conjunction? (all : List α → α) : List α → Option α
  | [] => none
  | [m] => some m
  | ms => some (all ms)

mutual
/-- The condition that a request match states. Method names are taken in upper case. -/
def RequestMatch.ofSpec? : RequestMatchSpec → Option RequestMatch
  | ⟨allOf, anyOf, negated, pathRegex, token⟩ => do
    let allOf ← RequestMatch.ofSpecs? allOf
    let anyOf ← RequestMatch.ofSpecs? anyOf
    let negated ← RequestMatch.ofNot? negated
    let method ← token.mapM fun m => Method.ofText? (uppercaseAscii m)
    let path ← pathRegex.mapM Pattern.ofText?
    conjunction? .all ((allOf.map RequestMatch.all).toList ++ (anyOf.map RequestMatch.any).toList ++
      (method.map RequestMatch.method).toList ++ (negated.map RequestMatch.not).toList ++
      (path.map RequestMatch.path).toList)

def RequestMatch.ofSpecs? : Option (List RequestMatchSpec) → Option (Option (List RequestMatch))
  | none => some none
  | some ms => (RequestMatch.ofList? ms).map some

def RequestMatch.ofNot? : Option RequestMatchSpec → Option (Option RequestMatch)
  | none => some none
  | some m => (RequestMatch.ofSpec? m).map some

def RequestMatch.ofList? : List RequestMatchSpec → Option (List RequestMatch)
  | [] => some []
  | m :: r => do
    let m ← RequestMatch.ofSpec? m
    let r ← RequestMatch.ofList? r
    some (m :: r)
end

/-- The lowest status code of a range without a minimum. -/
def lowestStatus : Nat := 100

/-- The highest status code of a range without a maximum. -/
def highestStatus : Nat := 599

/-- The bounds of a range, which must be in order. -/
def statusBounds? (s : StatusRange) : Option (Nat × Nat) :=
  let min := s.min.getD lowestStatus
  let max := s.max.getD highestStatus
  if min ≤ max then some (min, max) else none

mutual
/-- The condition that a response match states. -/
def ResponseMatch.ofSpec? : ResponseMatchSpec → Option ResponseMatch
  | ⟨allOf, anyOf, negated, range⟩ => do
    let allOf ← ResponseMatch.ofSpecs? allOf
    let anyOf ← ResponseMatch.ofSpecs? anyOf
    let negated ← ResponseMatch.ofNot? negated
    let bounds ← range.mapM statusBounds?
    conjunction? .all ((allOf.map ResponseMatch.all).toList ++
      (anyOf.map ResponseMatch.any).toList ++ (negated.map ResponseMatch.not).toList ++
      (bounds.map fun (min, max) => ResponseMatch.status min max).toList)

def ResponseMatch.ofSpecs? : Option (List ResponseMatchSpec) → Option (Option (List ResponseMatch))
  | none => some none
  | some ms => (ResponseMatch.ofList? ms).map some

def ResponseMatch.ofNot? : Option ResponseMatchSpec → Option (Option ResponseMatch)
  | none => some none
  | some m => (ResponseMatch.ofSpec? m).map some

def ResponseMatch.ofList? : List ResponseMatchSpec → Option (List ResponseMatch)
  | [] => some []
  | m :: r => do
    let m ← ResponseMatch.ofSpec? m
    let r ← ResponseMatch.ofList? r
    some (m :: r)
end

/-- The class that a response class states. -/
def ResponseClass.ofSpec? (c : ResponseClassSpec) : Option ResponseClass :=
  (ResponseMatch.ofSpec? c.condition).map fun condition => ⟨condition, c.isFailure⟩

/-- The duration of a text. -/
def durationOf (s : String) : Except ProfileFault Duration :=
  match Duration.parse s with
  | .ok d => .ok d
  | .error .overflow => .error .overflow
  | .error _ => .error .unusable

/-- The route that a resource's route states. Its timeout is looked at only when the rest can be
used. -/
def RouteSpec.ofSpec (r : Cluster.RouteSpec) : Except ProfileFault RouteSpec :=
  match RequestMatch.ofSpec? r.condition, r.responseClasses.mapM ResponseClass.ofSpec? with
  | some condition, some responseClasses => do
    let timeout ← r.timeout.mapM durationOf
    .ok { name := r.name, condition, responseClasses, isRetryable := r.isRetryable, timeout }
  | _, _ => .error .unusable

/-- What can be used of a part, unless the part is a fault of the whole. -/
def usable : Except ProfileFault α → Except ProfileFault (Option α)
  | .ok a => .ok (some a)
  | .error .unusable => .ok none
  | .error .overflow => .error .overflow

/-- The routes that can be used, in order. -/
def usableRoutes : List Cluster.RouteSpec → Except ProfileFault (List RouteSpec)
  | [] => .ok []
  | r :: rest => do
    let route ← usable (RouteSpec.ofSpec r)
    let routes ← usableRoutes rest
    .ok (route.toList ++ routes)

/-- The retry budget that a resource's budget states. -/
def RetryBudget.ofSpec (b : RetryBudgetSpec) : Except ProfileFault RetryBudget :=
  (durationOf b.ttl).map fun ttl => ⟨b.retryRatio, b.minRetriesPerSecond, ttl⟩

/-- The retry budget, if there is one that can be used. -/
def usableBudget : Option RetryBudgetSpec → Except ProfileFault (Option RetryBudget)
  | none => .ok none
  | some b => usable (RetryBudget.ofSpec b)

/-- The profile that a resource states. -/
def Profile.ofSpec (s : ServiceProfileSpec) : Except ProfileFault Profile := do
  let routes ← usableRoutes s.routes
  let retryBudget ← usableBudget s.retryBudget
  .ok { routes, retryBudget }

end MeshDestination
